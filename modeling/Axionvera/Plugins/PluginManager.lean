import Axionvera.Foundation.InsertionMap
import Axionvera.Foundation.LiveMap
import Axionvera.Foundation.TransitionSystem

/-! `PluginManager` (`plugin/pluginManager.ts`) and the clients that are constructed with it
(`client/stellarClient.ts`), as a machine: its asynchronous functions rest while they await hooks
or each other, and everything else can happen meanwhile.
-/

namespace Axionvera.Plugins

open Axionvera.Foundation

/-- `PluginConfig`, as far as the manager looks at it: which hooks there are, and the names of the
middleware.
-/
structure PluginConfig where
  id : String
  middleware : List String := []
  hasOnInstall : Bool := false
  hasOnUninstall : Bool := false
  hasAfterClientInit : Bool := false

/-- `PluginInstance`. -/
structure PluginInstance where
  config : PluginConfig
  installed : Bool := false

/-- Middleware in the pipeline of a client, and the plugin instance that it comes from. -/
structure PluginMiddleware where
  plugin : Nat
  name : String
  deriving DecidableEq

/-- A loop that applies plugins to clients: that of `install` over the clients of the manager, or
that of `applyToClient` over the plugins that were installed when it began.
-/
inductive PluginLoop where
  | clients (plugin : Nat) (cursor : Nat)
  | plugins (client : Nat) (rest : List Nat)

/-- A loop with the plugin and the client of an `applyPluginToClient` that has yet to use the
middleware.
-/
structure Application where
  pending : Option (Nat × Nat)
  loop : PluginLoop

/-- What an asynchronous function awaits: a hook, or the end of `applyPluginToClient`. -/
inductive PluginTask where
  | onInstall (plugin : Nat)
  | onUninstall (plugin : Nat)
  | applying (application : Application)

/-- A manager with all plugin instances and all clients that were made with it, which are known by
the order of their creation. Timers wait for the clients whose `applyToClient` is deferred. While a
loop runs nothing else does; calls of `unregister` whose `onUninstall` hook runs are kept on a
stack.
-/
structure PluginManager where
  autoInstall : Bool
  plugins : InsertionMap String Nat
  instances : List PluginInstance
  clients : LiveMap Nat Unit
  pipelines : List (List PluginMiddleware)
  timers : List Nat
  tasks : List PluginTask
  running : Option Application
  unregistering : List String

namespace PluginManager

/-- A manager that has just been created. -/
def initial (autoInstall : Bool) : PluginManager :=
  {
    autoInstall := autoInstall
    plugins := .empty
    instances := []
    clients := .empty
    pipelines := []
    timers := []
    tasks := []
    running := none
    unregistering := []
  }

/-- `installed` of an instance. -/
def isInstalled (manager : PluginManager) (plugin : Nat) : Bool :=
  manager.instances[plugin]?.any PluginInstance.installed

/-- The hook is there. -/
def has (manager : PluginManager) (hook : PluginConfig → Bool) (plugin : Nat) : Bool :=
  manager.instances[plugin]?.any fun found => hook found.config

/-- `config.middleware` of an instance. -/
def middlewareOf (manager : PluginManager) (plugin : Nat) : List String :=
  (manager.instances[plugin]?.map fun found => found.config.middleware).getD []

/-- `getInstalled`. -/
def getInstalled (manager : PluginManager) : List Nat :=
  manager.plugins.values.filter manager.isInstalled

/-- `getMiddleware`. -/
def getMiddleware (manager : PluginManager) : List PluginMiddleware :=
  manager.getInstalled.flatMap fun plugin =>
    (manager.middlewareOf plugin).map fun name => ⟨plugin, name⟩

/-- Set `installed` of an instance. -/
def setInstalled (manager : PluginManager) (plugin : Nat) (installed : Bool) : PluginManager :=
  { manager with
    instances :=
      manager.instances.modify plugin fun found => { found with installed := installed } }

/-- `install`, once `onInstall` is through. -/
def finishInstall (manager : PluginManager) (plugin : Nat) : PluginManager :=
  { manager.setInstalled plugin true with running := some ⟨none, .clients plugin 0⟩ }

/-- `install`. -/
def install (manager : PluginManager) (plugin : Nat) : PluginManager :=
  if manager.isInstalled plugin then manager
  else if manager.has PluginConfig.hasOnInstall plugin then
    { manager with tasks := manager.tasks ++ [.onInstall plugin] }
  else manager.finishInstall plugin

/-- `uninstall`. -/
def uninstall (manager : PluginManager) (plugin : Nat) : PluginManager :=
  if !manager.isInstalled plugin then manager
  else if manager.has PluginConfig.hasOnUninstall plugin then
    { manager with tasks := manager.tasks ++ [.onUninstall plugin] }
  else manager.setInstalled plugin false

/-- `register`, which throws for an id that is in use. -/
def register (manager : PluginManager) (config : PluginConfig) : PluginManager :=
  match manager.plugins.get config.id with
  | some _ => manager
  | none =>
      let plugin := manager.instances.length
      let registered :=
        { manager with
          plugins := manager.plugins.set config.id plugin
          instances := manager.instances ++ [{ config := config }] }
      if manager.autoInstall then registered.install plugin else registered

/-- `unregister` of a plugin, up to its end if the `onUninstall` hook is called. The promise of
`uninstall` is not awaited.
-/
def unregister (manager : PluginManager) (id : String) (plugin : Nat) : PluginManager :=
  if manager.isInstalled plugin then
    let uninstalling := manager.uninstall plugin
    if manager.has PluginConfig.hasOnUninstall plugin then
      { uninstalling with unregistering := id :: manager.unregistering }
    else { uninstalling with plugins := manager.plugins.delete id }
  else { manager with plugins := manager.plugins.delete id }

/-- A client is constructed. `use` throws for middleware without a name, and then there is none. -/
def construct (manager : PluginManager) : PluginManager :=
  if manager.getMiddleware.any fun middleware => middleware.name = "" then manager
  else
    { manager with
      pipelines := manager.pipelines ++ [manager.getMiddleware]
      timers := manager.timers ++ [manager.pipelines.length] }

/-- `applyToClient`, up to its loop. -/
def applyToClient (manager : PluginManager) (client : Nat) : PluginManager :=
  { manager with
    timers := manager.timers.erase client
    clients := manager.clients.set client ()
    running := some ⟨none, .plugins client manager.getInstalled⟩ }

/-- `applyPluginToClient`, up to the `afterClientInit` hook. -/
def applyPluginToClient (manager : PluginManager) (plugin client : Nat) (loop : PluginLoop)
    : PluginManager :=
  let application : Application := ⟨some (plugin, client), loop⟩
  if manager.has PluginConfig.hasAfterClientInit plugin then
    { manager with running := none, tasks := manager.tasks ++ [.applying application] }
  else { manager with running := some application }

/-- The end of `applyPluginToClient`, which the loop awaits. If `use` throws, the loop ends. -/
def useMiddleware (manager : PluginManager) (plugin client : Nat) (loop : PluginLoop)
    : PluginManager :=
  let names := manager.middlewareOf plugin
  let used := names.takeWhile fun name => name ≠ ""
  let applied :=
    { manager with
      pipelines :=
        manager.pipelines.modify client fun pipeline =>
          pipeline ++ used.map fun name => ⟨plugin, name⟩
      running := none }
  if "" ∈ names then applied
  else { applied with tasks := manager.tasks ++ [.applying ⟨none, loop⟩] }

/-- The next turn of a loop. -/
def turn (manager : PluginManager) : PluginLoop → PluginManager
  | .clients plugin cursor =>
      match manager.clients.next cursor with
      | none => { manager with running := none }
      | some entry =>
          manager.applyPluginToClient plugin entry.key (.clients plugin (entry.stamp + 1))
  | .plugins _ [] => { manager with running := none }
  | .plugins client (plugin :: rest) =>
      manager.applyPluginToClient plugin client (.plugins client rest)

/-- No function of the manager is running, so that one that awaits can go on. -/
def idle (manager : PluginManager) : Bool :=
  manager.running.isNone && manager.unregistering.isEmpty

end PluginManager

/-- Everything that can happen next. Asynchronous functions are known by their place. -/
inductive PluginAction where
  | register (config : PluginConfig)
  | unregister (id : String)
  | finishUnregister
  | install (id : String)
  | uninstall (id : String)
  | construct
  | timer (client : Nat)
  | advance
  | resolves (place : Nat)
  | rejects (place : Nat)

/-- One step of the machine. Calls come from code outside the manager, which includes the hooks, and
do nothing but throw for ids that are not in use.
-/
def pluginStep (manager : PluginManager) : PluginAction → Option PluginManager
  | .register config =>
      if manager.running.isNone then some (manager.register config) else none
  | .unregister id =>
      if manager.running.isNone then
        match manager.plugins.get id with
        | none => some manager
        | some plugin => some (manager.unregister id plugin)
      else none
  | .finishUnregister =>
      match manager.running, manager.unregistering with
      | none, id :: others =>
          some { manager with plugins := manager.plugins.delete id, unregistering := others }
      | _, _ => none
  | .install id =>
      if manager.running.isNone then
        match manager.plugins.get id with
        | none => some manager
        | some plugin => some (manager.install plugin)
      else none
  | .uninstall id =>
      if manager.running.isNone then
        match manager.plugins.get id with
        | none => some manager
        | some plugin => some (manager.uninstall plugin)
      else none
  | .construct => if manager.running.isNone then some manager.construct else none
  | .timer client =>
      if manager.idle && client ∈ manager.timers then some (manager.applyToClient client) else none
  | .advance =>
      match manager.running with
      | none => none
      | some application =>
          match application.pending with
          | none => some (manager.turn application.loop)
          | some (plugin, client) => some (manager.useMiddleware plugin client application.loop)
  | .resolves place =>
      if manager.idle then
        let going := { manager with tasks := manager.tasks.eraseIdx place }
        match manager.tasks[place]? with
        | none => none
        | some (.onInstall plugin) => some (going.finishInstall plugin)
        | some (.onUninstall plugin) => some (going.setInstalled plugin false)
        | some (.applying application) => some { going with running := some application }
      else none
  | .rejects place =>
      if manager.idle then
        match manager.tasks[place]? with
        | some (.onInstall _) | some (.onUninstall _) | some (.applying ⟨some _, _⟩) =>
            some { manager with tasks := manager.tasks.eraseIdx place }
        | _ => none
      else none

end Axionvera.Plugins
