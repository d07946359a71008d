import Axionvera.Plugins.AppliedPlugins
import Mathlib.Data.List.Perm.Basic

/-! Every client has the middleware of the installed plugins once, and no other, when all work is
done. Nothing looks whether a client has middleware already, and nothing takes it away, so that this
depends on the order in which clients are constructed and plugins come and go.
-/

namespace Axionvera.Plugins

open Axionvera.Foundation

/-- The plugin that a loop of `install` applies to the clients. -/
def PluginLoop.installs : PluginLoop → Option Nat
  | .clients plugin _ => some plugin
  | .plugins _ _ => none

/-- The plugins that a loop has yet to apply. -/
def PluginLoop.remaining : PluginLoop → List Nat
  | .clients plugin _ => [plugin]
  | .plugins _ rest => rest

/-- The plugins that an application has yet to apply. -/
def Application.plugins (application : Application) : List Nat :=
  (application.pending.map Prod.fst).toList ++ application.loop.remaining

/-- The plugin that is installed when the task goes on. -/
def PluginTask.installs : PluginTask → Option Nat
  | .onInstall plugin => some plugin
  | .onUninstall _ | .applying _ => none

/-- The plugin that is uninstalled when the task goes on. -/
def PluginTask.uninstalls : PluginTask → Option Nat
  | .onUninstall plugin => some plugin
  | .onInstall _ | .applying _ => none

/-- The plugins that are not applied if a hook fails that the task awaits. -/
def PluginTask.abandons : PluginTask → List Nat
  | .applying ⟨some (plugin, _), loop⟩ => plugin :: loop.remaining
  | .onInstall _ | .onUninstall _ | .applying ⟨none, _⟩ => []

/-- The application that waits in a task. -/
def PluginTask.application : PluginTask → Option Application
  | .applying application => some application
  | .onInstall _ | .onUninstall _ => none

namespace PluginManager

/-- The applications under way: the running one, and those that wait. -/
def works (manager : PluginManager) : List Application :=
  manager.running.toList ++ manager.tasks.filterMap PluginTask.application

/-- The plugin is not installed or has no middleware; or no client has middleware of it, and no
application under way has yet to apply it.
-/
def isFree (manager : PluginManager) (plugin : Nat) : Prop :=
  plugin ∈ manager.getInstalled
  → manager.middlewareOf plugin ≠ []
  → manager.isNowhere plugin ∧ ∀ application ∈ manager.works, plugin ∉ application.plugins

instance (manager : PluginManager) (plugin : Nat) : Decidable (manager.isFree plugin) :=
  inferInstanceAs
    (Decidable (plugin ∈ manager.getInstalled → _ ≠ []
      → manager.isNowhere plugin ∧ ∀ application ∈ manager.works, plugin ∉ application.plugins))

end PluginManager

/-- All middleware has names. No client is constructed while a plugin with middleware is installed,
and no client's timer fires while `install` applies one. When `onInstall` is through, its plugin is
registered and has not been installed meanwhile. A plugin is uninstalled or deleted only if it is
free. And `afterClientInit` does not fail while the loop that awaits it has middleware left to add.
-/
def changesInTurn (manager : PluginManager) : PluginAction → Prop
  | .register config => "" ∉ config.middleware
  | .construct => manager.getMiddleware = []
  | .timer _ =>
      ∀ application ∈ manager.works,
        ∀ plugin ∈ application.loop.installs, manager.middlewareOf plugin = []
  | .uninstall id =>
      ∀ plugin ∈ manager.plugins.get id,
        manager.has PluginConfig.hasOnUninstall plugin = false → manager.isFree plugin
  | .unregister id =>
      ∀ plugin ∈ manager.plugins.get id,
        manager.isInstalled plugin && manager.has PluginConfig.hasOnUninstall plugin = true
        ∨ manager.isFree plugin
  | .finishUnregister =>
      ∀ id ∈ manager.unregistering.head?,
        ∀ plugin ∈ manager.plugins.get id, manager.isFree plugin
  | .resolves place =>
      ∀ task ∈ manager.tasks[place]?,
        (∀ plugin ∈ task.installs,
          manager.middlewareOf plugin ≠ []
          → plugin ∈ manager.plugins.values ∧ manager.isInstalled plugin = false)
        ∧ ∀ plugin ∈ task.uninstalls, manager.isFree plugin
  | .rejects place =>
      ∀ task ∈ manager.tasks[place]?, ∀ plugin ∈ task.abandons, manager.middlewareOf plugin = []
  | .install _ | .advance => True

instance (manager : PluginManager) : DecidablePred (changesInTurn manager)
  | .register config => inferInstanceAs (Decidable ("" ∉ config.middleware))
  | .construct => inferInstanceAs (Decidable (manager.getMiddleware = []))
  | .timer _ =>
      inferInstanceAs
        (Decidable (∀ application ∈ manager.works, ∀ plugin ∈ application.loop.installs, _ = []))
  | .uninstall id =>
      inferInstanceAs
        (Decidable (∀ plugin ∈ manager.plugins.get id, _ = false → manager.isFree plugin))
  | .unregister id =>
      inferInstanceAs
        (Decidable (∀ plugin ∈ manager.plugins.get id, _ = true ∨ manager.isFree plugin))
  | .finishUnregister =>
      inferInstanceAs
        (Decidable (∀ id ∈ manager.unregistering.head?, ∀ plugin ∈ manager.plugins.get id,
          manager.isFree plugin))
  | .resolves place =>
      inferInstanceAs
        (Decidable (∀ task ∈ manager.tasks[place]?,
          (∀ plugin ∈ task.installs, _ ≠ [] → plugin ∈ manager.plugins.values ∧ _ = false)
          ∧ ∀ plugin ∈ task.uninstalls, manager.isFree plugin))
  | .rejects place =>
      inferInstanceAs
        (Decidable (∀ task ∈ manager.tasks[place]?, ∀ plugin ∈ task.abandons, _ = []))
  | .install _ | .advance => .isTrue trivial

-----------------------------------------------------------------------------------------
-- Applications that keep out of each other's way
-----------------------------------------------------------------------------------------

/-- An application comes to no plugin and client twice. -/
structure Application.ComesOnce (manager : PluginManager) (application : Application) : Prop where
  pending
    : ∀ plugin client,
        manager.middlewareOf plugin ≠ []
        → application.pending = some (plugin, client)
        → ¬ application.loop.covers manager.clients plugin client
  rest
    : ∀ client others, application.loop = .plugins client others → others.Nodup

/-- Applications that come to no plugin and client twice, alone and together. Where they will use
middleware, it is that of an installed plugin, and the client lacks it and has no timer left.
-/
structure Orderly (manager : PluginManager) (works : List Application) : Prop where
  mentioned
    : ∀ application ∈ works,
        ∀ plugin ∈ application.plugins, plugin < manager.instances.length
  ready
    : ∀ application ∈ works,
        ∀ plugin client,
          manager.middlewareOf plugin ≠ []
          → application.covers manager.clients plugin client
          → plugin ∈ manager.getInstalled
            ∧ manager.added client plugin = []
            ∧ client ∉ manager.timers
            ∧ client < manager.pipelines.length
  once : ∀ application ∈ works, application.ComesOnce manager
  apart
    : works.Pairwise fun first second =>
        ∀ plugin client,
          manager.middlewareOf plugin ≠ []
          → first.covers manager.clients plugin client
          → ¬ second.covers manager.clients plugin client

/-- What holds while plugins and clients come and go in turn. Clients whose timers are set have no
middleware, and the manager does not know them yet.
-/
structure InTurn (manager : PluginManager) : Prop where
  named : ∀ plugin, "" ∉ manager.middlewareOf plugin
  fresh
    : ∀ client ∈ manager.timers,
        client < manager.pipelines.length
        ∧ (∀ plugin, manager.added client plugin = [])
        ∧ ∀ entry ∈ manager.clients.entries, entry.key ≠ client
  distinct : manager.timers.Nodup
  inside : ∀ entry ∈ manager.clients.entries, entry.key < manager.pipelines.length
  awaited : ∀ plugin, .onInstall plugin ∈ manager.tasks → plugin < manager.instances.length
  orderly : Orderly manager manager.works

variable {manager next : PluginManager} {works others : List Application}

/-- An application has yet to apply the plugins that it covers. -/
theorem Application.covers.mem_plugins {clients : LiveMap Nat Unit} {application : Application}
    {plugin client : Nat} (covers : application.covers clients plugin client)
    : plugin ∈ application.plugins := by
  obtain ⟨pending, loop⟩ := application
  rcases covers with isPending | later
  · obtain rfl : pending = some (plugin, client) := isPending
    exact List.mem_cons_self
  · refine List.mem_append_right _ ?_
    cases loop with
    | clients other cursor => exact later.1 ▸ List.mem_singleton_self _
    | plugins served rest => exact later.2

/-- The order of applications does not matter. -/
theorem Orderly.perm (orderly : Orderly manager works) (same : works.Perm others)
    : Orderly manager others := by
  refine ⟨fun application member => orderly.mentioned application (same.mem_iff.mpr member),
    fun application member => orderly.ready application (same.mem_iff.mpr member),
    fun application member => orderly.once application (same.mem_iff.mpr member), ?_⟩
  refine (same.pairwise_iff fun apart plugin client some covers other => ?_).mp orderly.apart
  exact apart plugin client some other covers

/-- An application can end. -/
theorem Orderly.tail {application : Application} (orderly : Orderly manager (application :: works))
    : Orderly manager works :=
  ⟨fun other member => orderly.mentioned other (List.mem_cons_of_mem _ member),
    fun other member => orderly.ready other (List.mem_cons_of_mem _ member),
    fun other member => orderly.once other (List.mem_cons_of_mem _ member),
    (List.pairwise_cons.mp orderly.apart).2⟩

/-- An application can give way to one that covers no more. -/
theorem Orderly.replace {application further : Application}
    (orderly : Orderly manager (application :: works))
    (mentions : further.plugins ⊆ application.plugins)
    (covers
      : ∀ plugin client,
          further.covers manager.clients plugin client
          → application.covers manager.clients plugin client)
    (once : further.ComesOnce manager)
    : Orderly manager (further :: works) := by
  have rest := orderly.tail
  obtain ⟨apart, restApart⟩ := List.pairwise_cons.mp orderly.apart
  refine ⟨?_, ?_, ?_, List.pairwise_cons.mpr ⟨?_, restApart⟩⟩
  · refine List.forall_mem_cons.mpr ⟨fun plugin member => ?_, rest.mentioned⟩
    exact orderly.mentioned application List.mem_cons_self plugin (mentions member)
  · refine List.forall_mem_cons.mpr ⟨fun plugin client some isCovered => ?_, rest.ready⟩
    exact orderly.ready application List.mem_cons_self plugin client some
      (covers plugin client isCovered)
  · exact List.forall_mem_cons.mpr ⟨once, rest.once⟩
  · intro other member plugin client some isCovered
    exact apart other member plugin client some (covers plugin client isCovered)

-----------------------------------------------------------------------------------------
-- What the steps do to them
-----------------------------------------------------------------------------------------

/-- If nothing but the work changes, the applications must still be orderly. -/
theorem InTurn.rework (inTurn : InTurn manager) (running : Option Application)
    (tasks : List PluginTask) (unregistering : List String)
    (awaited : ∀ plugin, .onInstall plugin ∈ tasks → plugin < manager.instances.length)
    (orderly
      : Orderly manager (running.toList ++ tasks.filterMap PluginTask.application))
    : InTurn
        { manager with running := running, tasks := tasks, unregistering := unregistering } :=
  ⟨inTurn.named, inTurn.fresh, inTurn.distinct, inTurn.inside, awaited,
    ⟨orderly.mentioned, orderly.ready,
      fun application member =>
        ⟨(orderly.once application member).pending, (orderly.once application member).rest⟩,
      orderly.apart⟩⟩

/-- A task without an application does not matter, as long as its plugin is there. -/
theorem InTurn.addTask (inTurn : InTurn manager) {task : PluginTask}
    (unregistering : List String) (noApplication : task.application = none)
    (there : ∀ plugin, .onInstall plugin = task → plugin < manager.instances.length)
    : InTurn { manager with tasks := manager.tasks ++ [task], unregistering := unregistering } := by
  refine inTurn.rework manager.running _ unregistering (fun plugin member => ?_) ?_
  · rcases List.mem_append.mp member with old | isNew
    · exact inTurn.awaited plugin old
    · exact there plugin (List.mem_singleton.mp isNew)
  · have same
        : (manager.tasks ++ [task]).filterMap PluginTask.application
          = manager.tasks.filterMap PluginTask.application := by
      simp [List.filterMap_append, noApplication]
    rw [same]
    exact inTurn.orderly

/-- The applications under way, when one is running. -/
theorem works_of_running {application : Application}
    (running : manager.running = some application)
    : manager.works = application :: manager.tasks.filterMap PluginTask.application := by
  simp [PluginManager.works, running]

/-- The applications under way, when none is running. -/
theorem works_of_not_running (notRunning : manager.running = none)
    : manager.works = manager.tasks.filterMap PluginTask.application := by
  simp [PluginManager.works, notRunning]

/-- A task can be put first. -/
theorem tasks_perm {place : Nat} {task : PluginTask} (found : manager.tasks[place]? = some task)
    : manager.tasks.Perm (task :: manager.tasks.eraseIdx place) := by
  obtain ⟨inside, isTask⟩ := List.getElem?_eq_some_iff.mp found
  exact isTask ▸ (List.getElem_cons_eraseIdx_perm inside).symm

/-- A task can be taken out. -/
theorem InTurn.eraseTask (inTurn : InTurn manager) (notRunning : manager.running = none)
    {place : Nat} {task : PluginTask} (found : manager.tasks[place]? = some task)
    : InTurn { manager with tasks := manager.tasks.eraseIdx place } := by
  refine inTurn.rework manager.running _ manager.unregistering (fun plugin member => ?_) ?_
  · exact inTurn.awaited plugin (List.mem_of_mem_eraseIdx member)
  · have orderly := inTurn.orderly
    rw [works_of_not_running notRunning] at orderly
    have split := orderly.perm ((tasks_perm found).filterMap PluginTask.application)
    rw [notRunning]
    cases isApplication : task.application with
    | none => simpa [List.filterMap_cons, isApplication] using split
    | some application =>
        rw [List.filterMap_cons, isApplication] at split
        exact split.tail

/-- An application that waits can run. -/
theorem InTurn.resume (inTurn : InTurn manager) (notRunning : manager.running = none)
    {place : Nat} {application : Application}
    (found : manager.tasks[place]? = some (.applying application))
    : InTurn
        { manager with
          running := some application, tasks := manager.tasks.eraseIdx place } := by
  refine inTurn.rework (some application) _ manager.unregistering (fun plugin member => ?_) ?_
  · exact inTurn.awaited plugin (List.mem_of_mem_eraseIdx member)
  · have orderly := inTurn.orderly
    rw [works_of_not_running notRunning] at orderly
    exact orderly.perm ((tasks_perm found).filterMap PluginTask.application)

/-- The running application can end. -/
theorem InTurn.finish (inTurn : InTurn manager) {application : Application}
    (running : manager.running = some application)
    : InTurn { manager with running := none } := by
  refine inTurn.rework none manager.tasks manager.unregistering inTurn.awaited ?_
  have orderly := inTurn.orderly
  rw [works_of_running running] at orderly
  exact orderly.tail

/-- The running application can give way to one that covers no more, which runs on or waits. -/
theorem InTurn.applyPluginToClient (inTurn : InTurn manager) {application : Application}
    (running : manager.running = some application) (plugin client : Nat) (loop : PluginLoop)
    (mentions : (⟨some (plugin, client), loop⟩ : Application).plugins ⊆ application.plugins)
    (covers
      : ∀ other target,
          (⟨some (plugin, client), loop⟩ : Application).covers manager.clients other target
          → application.covers manager.clients other target)
    (once : (⟨some (plugin, client), loop⟩ : Application).ComesOnce manager)
    : InTurn (manager.applyPluginToClient plugin client loop) := by
  have orderly := inTurn.orderly
  rw [works_of_running running] at orderly
  have replaced := orderly.replace mentions covers once
  unfold PluginManager.applyPluginToClient
  dsimp only
  split
  · refine inTurn.rework none _ manager.unregistering (fun other member => ?_) ?_
    · rcases List.mem_append.mp member with old | isNew
      · exact inTurn.awaited other old
      · cases List.mem_singleton.mp isNew
    · refine replaced.perm ?_
      rw [List.filterMap_append]
      exact (List.perm_append_singleton _ _).symm
  · exact inTurn.rework _ manager.tasks manager.unregistering inTurn.awaited replaced

/-- A turn of a loop comes to a plugin and a client that the loop then leaves behind. -/
theorem InTurn.turn (inTurn : InTurn manager) {loop : PluginLoop}
    (running : manager.running = some ⟨none, loop⟩)
    : InTurn (manager.turn loop) := by
  have once : (⟨none, loop⟩ : Application).ComesOnce manager := by
    refine inTurn.orderly.once _ ?_
    rw [works_of_running running]
    exact List.mem_cons_self
  cases loop with
  | clients plugin cursor =>
      unfold PluginManager.turn
      dsimp only
      cases ahead : manager.clients.next cursor with
      | none => exact inTurn.finish running
      | some entry =>
          obtain ⟨isEntry, notPassed, _⟩ := LiveMap.next_eq_some_iff.mp ahead
          refine inTurn.applyPluginToClient running plugin entry.key _ ?_
            (fun other target covers => ?_)
            ⟨fun other target _ pending later => ?_, fun _ _ isPlugins => by cases isPlugins⟩
          · intro other member
            rcases List.mem_cons.mp member with rfl | later
            · exact List.mem_singleton_self _
            · exact later
          · rcases covers with pending | ⟨rfl, found, member, rfl, later⟩
            · obtain ⟨rfl, rfl⟩ := Prod.mk.inj (Option.some.inj pending)
              exact .inr ⟨rfl, entry, isEntry, rfl, notPassed⟩
            · exact .inr ⟨rfl, found, member, rfl, by omega⟩
          · -- The client is behind the loop from now on.
            obtain ⟨rfl, rfl⟩ := Prod.mk.inj (Option.some.inj pending)
            obtain ⟨_, found, member, isKey, beyond⟩ := later
            have same := LiveMap.eq_of_key member isEntry isKey
            rw [same] at beyond
            exact Nat.not_succ_le_self _ beyond
  | plugins client rest =>
      cases rest with
      | nil => exact inTurn.finish running
      | cons plugin others =>
          obtain ⟨notLater, distinct⟩ := List.nodup_cons.mp (once.rest client _ rfl)
          refine inTurn.applyPluginToClient running plugin client _ (List.Subset.refl _)
            (fun other target covers => ?_)
            ⟨fun other target _ pending later => ?_, fun served rest isPlugins => ?_⟩
          · rcases covers with pending | ⟨rfl, later⟩
            · obtain ⟨rfl, rfl⟩ := Prod.mk.inj (Option.some.inj pending)
              exact .inr ⟨rfl, List.mem_cons_self⟩
            · exact .inr ⟨rfl, List.mem_cons_of_mem _ later⟩
          · obtain ⟨rfl, rfl⟩ := Prod.mk.inj (Option.some.inj pending)
            exact notLater later.2
          · obtain ⟨-, rfl⟩ := PluginLoop.plugins.inj isPlugins
            exact distinct

/-- The end of `applyPluginToClient` adds middleware where nothing else will. -/
theorem InTurn.useMiddleware (inTurn : InTurn manager) {plugin client : Nat} {loop : PluginLoop}
    (running : manager.running = some ⟨some (plugin, client), loop⟩)
    : InTurn (manager.useMiddleware plugin client loop) := by
  rw [useMiddleware_of_named manager client loop (inTurn.named plugin)]
  let after : PluginManager :=
    { manager with
      pipelines :=
        manager.pipelines.modify client fun pipeline =>
          pipeline ++ (manager.middlewareOf plugin).map fun name => ⟨plugin, name⟩
      running := none
      tasks := manager.tasks ++ [.applying ⟨none, loop⟩] }
  have added (target other : Nat)
      : after.added target other
        = if client = target ∧ plugin = other ∧ target < manager.pipelines.length then
            manager.added target other ++ manager.middlewareOf plugin
          else manager.added target other :=
    added_modify manager client plugin (manager.middlewareOf plugin) target other
  have length : after.pipelines.length = manager.pipelines.length := List.length_modify ..
  have orderly := inTurn.orderly
  rw [works_of_running running] at orderly
  have isReady := orderly.ready _ List.mem_cons_self plugin client
  have isOnce := orderly.once _ List.mem_cons_self
  have further
      : Orderly manager (⟨none, loop⟩ :: manager.tasks.filterMap PluginTask.application) := by
    refine orderly.replace (fun other member => List.mem_cons_of_mem _ member)
      (fun _ _ covers => ?_) ⟨fun _ _ _ pending => (by cases pending), isOnce.rest⟩
    rcases covers with pending | later
    · cases pending
    · exact .inr later
  have elsewhere {target other : Nat} (some : manager.middlewareOf other ≠ [])
      {application : Application}
      (member
        : application ∈ ⟨none, loop⟩ :: manager.tasks.filterMap PluginTask.application)
      (covers : application.covers manager.clients other target)
      : ¬ (client = target ∧ plugin = other ∧ target < manager.pipelines.length) := by
    intro same
    obtain ⟨rfl, rfl, -⟩ := same
    rcases List.mem_cons.mp member with rfl | waiting
    · rcases covers with pending | later
      · cases pending
      · exact isOnce.pending plugin client some rfl later
    · have apart := (List.pairwise_cons.mp orderly.apart).1 application waiting
      exact apart plugin client some (.inl rfl) covers
  have worksAfter
      : after.works.Perm (⟨none, loop⟩ :: manager.tasks.filterMap PluginTask.application) := by
    have works
        : after.works = manager.tasks.filterMap PluginTask.application ++ [⟨none, loop⟩] := by
      simp [PluginManager.works, after, List.filterMap_append, PluginTask.application]
    exact works ▸ List.perm_append_singleton _ _
  show InTurn after
  refine ⟨inTurn.named, fun target waits => ?_, inTurn.distinct, fun entry member => ?_,
    fun other member => ?_, Orderly.perm ?_ worksAfter.symm⟩
  · obtain ⟨inside, nothing, unknown⟩ := inTurn.fresh target waits
    refine ⟨length ▸ inside, fun other => ?_, unknown⟩
    rw [added]
    split
    · rename_i given
      obtain ⟨rfl, rfl, -⟩ := given
      by_cases none : manager.middlewareOf plugin = []
      · rw [none, nothing]
        rfl
      · exact absurd waits (isReady none (.inl rfl)).2.2.1
    · exact nothing other
  · exact length ▸ inTurn.inside entry member
  · rcases List.mem_append.mp member with old | isNew
    · exact inTurn.awaited other old
    · cases List.mem_singleton.mp isNew
  · refine ⟨further.mentioned, fun application member other target some covers => ?_,
      fun application member => ?_, further.apart⟩
    · obtain ⟨installed, missing, noTimer, inside⟩ :=
        further.ready application member other target some covers
      refine ⟨installed, ?_, noTimer, length ▸ inside⟩
      rw [added, if_neg (elsewhere some member covers)]
      exact missing
    · have onceMore := further.once application member
      exact ⟨onceMore.pending, onceMore.rest⟩

/-- A plugin that was not installed is not applied anywhere else when `install` begins to apply it.
-/
theorem InTurn.finishInstall (inTurn : InTurn manager) (applied : WellApplied manager)
    (notRunning : manager.running = none) {plugin : Nat}
    (there : plugin < manager.instances.length)
    (isNew
      : manager.middlewareOf plugin ≠ []
        → plugin ∈ manager.plugins.values ∧ manager.isInstalled plugin = false)
    : InTurn (manager.finishInstall plugin) := by
  let after := manager.finishInstall plugin
  have middleware (other : Nat) : after.middlewareOf other = manager.middlewareOf other :=
    middlewareOf_setInstalled manager plugin other true
  have length : after.instances.length = manager.instances.length := List.length_modify ..
  have grows {other : Nat} (installed : other ∈ manager.getInstalled)
      : other ∈ after.getInstalled :=
    mem_getInstalled_of_marked applied.below installed
  have notInstalled (some : manager.middlewareOf plugin ≠ []) : plugin ∉ manager.getInstalled := by
    intro installed
    have was := (mem_getInstalled.mp installed).2
    rw [(isNew some).2] at was
    cases was
  have orderly := inTurn.orderly
  rw [works_of_not_running notRunning] at orderly
  have works
      : after.works
        = ⟨none, .clients plugin 0⟩ :: manager.tasks.filterMap PluginTask.application :=
    rfl
  show InTurn after
  refine ⟨fun other => ?_, inTurn.fresh, inTurn.distinct, inTurn.inside, fun other member => ?_,
    ?_⟩
  · rw [middleware]
    exact inTurn.named other
  · exact length ▸ inTurn.awaited other member
  · rw [works]
    refine ⟨List.forall_mem_cons.mpr ⟨?_, ?_⟩, List.forall_mem_cons.mpr ⟨?_, ?_⟩,
      List.forall_mem_cons.mpr ⟨⟨?_, ?_⟩, ?_⟩, List.pairwise_cons.mpr ⟨?_, ?_⟩⟩
    · intro other member
      obtain rfl := List.mem_singleton.mp member
      exact length ▸ there
    · exact fun application member other mentioned =>
        length ▸ orderly.mentioned application member other mentioned
    · intro other client some covers
      rw [middleware] at some
      rcases covers with pending | ⟨rfl, entry, member, rfl, _⟩
      · cases pending
      · refine ⟨?_, ?_, fun waits => ?_, inTurn.inside entry member⟩
        · refine mem_getInstalled.mpr ⟨(isNew some).1,
            (isInstalled_setInstalled manager plugin plugin true).trans ?_⟩
          simp [there]
        · rcases applied.applied entry.key plugin with nothing | ⟨-, installed⟩
          · exact nothing
          · exact absurd installed (notInstalled some)
        · exact (inTurn.fresh entry.key waits).2.2 entry member rfl
    · intro application member other client some covers
      rw [middleware] at some
      exact (orderly.ready application member other client some covers).imp_left grows
    · exact fun _ _ _ pending => by cases pending
    · exact fun _ _ isPlugins => by cases isPlugins
    · intro application member
      have once := orderly.once application member
      exact ⟨fun other client some => once.pending other client (middleware other ▸ some),
        once.rest⟩
    · intro application member other client some covers alsoCovers
      rw [middleware] at some
      rcases covers with pending | ⟨rfl, -⟩
      · cases pending
      · exact notInstalled some (orderly.ready application member plugin client some alsoCovers).1
    · exact orderly.apart.imp fun apart other client some =>
        apart other client (middleware other ▸ some)

/-- `applyToClient` comes to a client that no other application comes to, because none that would
find the client among those of the manager uses middleware.
-/
theorem InTurn.applyToClient (inTurn : InTurn manager) (applied : WellApplied manager)
    (notRunning : manager.running = none) {client : Nat} (waits : client ∈ manager.timers)
    (noInstall
      : ∀ application ∈ manager.works,
          ∀ plugin ∈ application.loop.installs, manager.middlewareOf plugin = [])
    : InTurn (manager.applyToClient client) := by
  let after := manager.applyToClient client
  have keys {entry : LiveEntry Nat Unit} (member : entry ∈ after.clients.entries)
      : entry.key = client ∨ ∃ old ∈ manager.clients.entries, entry.key = old.key := by
    rcases LiveMap.mem_set member with ⟨old, isOld, rfl⟩ | rfl
    · exact .inr ⟨old, isOld, LiveEntry.replace_key client () old⟩
    · exact .inl rfl
  have orderly := inTurn.orderly
  rw [works_of_not_running notRunning] at orderly noInstall
  have coveredBefore {application : Application}
      (member : application ∈ manager.tasks.filterMap PluginTask.application)
      {plugin target : Nat} (some : manager.middlewareOf plugin ≠ [])
      : (application.loop.covers after.clients plugin target
          → application.loop.covers manager.clients plugin target)
        ∧ (application.covers after.clients plugin target
          → application.covers manager.clients plugin target) := by
    have loopBefore
        : application.loop.covers after.clients plugin target
          → application.loop.covers manager.clients plugin target := by
      have nothing := noInstall application member
      obtain ⟨pending, loop⟩ := application
      cases loop with
      | clients other cursor =>
          intro covers
          exact absurd (covers.1 ▸ nothing other rfl) some
      | plugins served rest => exact id
    exact ⟨loopBefore, Or.imp_right loopBefore⟩
  have isReady {application : Application}
      (member : application ∈ manager.tasks.filterMap PluginTask.application)
      {plugin target : Nat} (some : manager.middlewareOf plugin ≠ [])
      (covers : application.covers after.clients plugin target) :=
    orderly.ready application member plugin target some ((coveredBefore member some).2 covers)
  have works
      : after.works
        = ⟨none, .plugins client manager.getInstalled⟩
          :: manager.tasks.filterMap PluginTask.application :=
    rfl
  obtain ⟨inside, nothing, -⟩ := inTurn.fresh client waits
  have noTimer : client ∉ manager.timers.erase client := inTurn.distinct.not_mem_erase
  show InTurn after
  refine ⟨inTurn.named, fun target stillWaits => ?_, inTurn.distinct.erase client,
    fun entry member => ?_, inTurn.awaited, ?_⟩
  · obtain ⟨different, waited⟩ := inTurn.distinct.mem_erase_iff.mp stillWaits
    obtain ⟨isInside, hasNothing, unknown⟩ := inTurn.fresh target waited
    refine ⟨isInside, hasNothing, fun entry member => ?_⟩
    rcases keys member with isClient | ⟨old, isOld, same⟩
    · exact isClient ▸ different.symm
    · exact same ▸ unknown old isOld
  · rcases keys member with isClient | ⟨old, isOld, same⟩
    · exact isClient ▸ inside
    · exact same ▸ inTurn.inside old isOld
  · rw [works]
    refine ⟨List.forall_mem_cons.mpr ⟨?_, orderly.mentioned⟩, List.forall_mem_cons.mpr ⟨?_, ?_⟩,
      List.forall_mem_cons.mpr ⟨⟨?_, ?_⟩, ?_⟩, List.pairwise_cons.mpr ⟨?_, ?_⟩⟩
    · exact fun plugin member => applied.below plugin (mem_getInstalled.mp member).1
    · intro plugin target _ covers
      rcases covers with pending | ⟨rfl, installed⟩
      · cases pending
      · exact ⟨installed, nothing plugin, noTimer, inside⟩
    · intro application member plugin target some covers
      obtain ⟨installed, missing, noLonger, isInside⟩ := isReady member some covers
      exact ⟨installed, missing, fun waiting => noLonger (List.mem_of_mem_erase waiting), isInside⟩
    · exact fun _ _ _ pending => by cases pending
    · intro target rest isPlugins
      obtain ⟨-, rfl⟩ := PluginLoop.plugins.inj isPlugins
      exact applied.distinct.filter _
    · intro application member
      have once := orderly.once application member
      exact ⟨fun plugin target some pending covers =>
        once.pending plugin target some pending ((coveredBefore member some).1 covers), once.rest⟩
    · intro application member plugin target some covers alsoCovers
      rcases covers with pending | ⟨rfl, -⟩
      · cases pending
      · exact (isReady member some alsoCovers).2.2.1 waits
    · refine orderly.apart.imp_of_mem
        fun isFirst isSecond apart plugin target some covers other => ?_
      exact apart plugin target some ((coveredBefore isFirst some).2 covers)
        ((coveredBefore isSecond some).2 other)

/-- A new client has nothing when no plugin with middleware is installed. -/
theorem InTurn.construct (inTurn : InTurn manager) (noMiddleware : manager.getMiddleware = [])
    : InTurn manager.construct := by
  let after : PluginManager :=
    { manager with
      pipelines := manager.pipelines ++ [[]]
      timers := manager.timers ++ [manager.pipelines.length] }
  have isAfter : manager.construct = after := by
    simp [PluginManager.construct, noMiddleware, after]
  have length : after.pipelines.length = manager.pipelines.length + 1 := by simp [after]
  have added (client plugin : Nat) : after.added client plugin = manager.added client plugin := by
    rcases Nat.lt_trichotomy client manager.pipelines.length with isOld | rfl | beyond
    · simp only [PluginManager.added, after, List.getElem?_append_left isOld]
    · simp [PluginManager.added, after]
    · have isNone : manager.pipelines[client]? = none :=
        List.getElem?_eq_none_iff.mpr (Nat.le_of_lt beyond)
      have noneAfter : after.pipelines[client]? = none :=
        List.getElem?_eq_none_iff.mpr (length ▸ beyond)
      simp [PluginManager.added, isNone, noneAfter]
  rw [isAfter]
  refine ⟨inTurn.named, fun client waits => ?_, ?_, fun entry member => ?_, inTurn.awaited,
    ⟨inTurn.orderly.mentioned, fun application member plugin client some covers => ?_,
      fun application member => ?_, inTurn.orderly.apart⟩⟩
  · rcases List.mem_append.mp waits with isOld | isNew
    · obtain ⟨inside, nothing, unknown⟩ := inTurn.fresh client isOld
      exact ⟨length ▸ Nat.lt_succ_of_lt inside,
        fun plugin => (added client plugin).trans (nothing plugin), unknown⟩
    · obtain rfl := List.mem_singleton.mp isNew
      refine ⟨length ▸ Nat.lt_succ_self _, fun plugin => ?_, fun entry member => ?_⟩
      · simp [PluginManager.added, after]
      · exact Nat.ne_of_lt (inTurn.inside entry member)
  · have timers : after.timers = manager.timers.concat manager.pipelines.length :=
      (List.concat_eq_append ..).symm
    rw [timers]
    exact inTurn.distinct.concat fun member => Nat.lt_irrefl _ (inTurn.fresh _ member).1
  · exact length ▸ Nat.lt_succ_of_lt (inTurn.inside entry member)
  · obtain ⟨installed, missing, noTimer, inside⟩ :=
      inTurn.orderly.ready application member plugin client some covers
    refine ⟨installed, (added client plugin).trans missing, fun waits => ?_,
      length ▸ Nat.lt_succ_of_lt inside⟩
    rcases List.mem_append.mp waits with isOld | isNew
    · exact noTimer isOld
    · exact Nat.ne_of_lt inside (List.mem_singleton.mp isNew)
  · have once := inTurn.orderly.once application member
    exact ⟨once.pending, once.rest⟩

/-- Plugins can be lost that are free: no application comes to them. -/
theorem InTurn.lose (inTurn : InTurn manager) {plugins : InsertionMap String Nat}
    {instances : List PluginInstance} {unregistering : List String}
    (length : instances.length = manager.instances.length)
    (middleware
      : ∀ plugin,
          { manager with plugins := plugins, instances := instances }.middlewareOf plugin
          = manager.middlewareOf plugin)
    (lost
      : ∀ plugin ∈ manager.getInstalled,
          plugin ∈ { manager with plugins := plugins, instances := instances }.getInstalled
          ∨ manager.isFree plugin)
    : InTurn
        { manager with
          plugins := plugins, instances := instances, unregistering := unregistering } := by
  have before {plugin : Nat}
      (some
        : { manager with
            plugins := plugins
            instances := instances
            unregistering := unregistering }.middlewareOf plugin ≠ [])
      : manager.middlewareOf plugin ≠ [] :=
    fun none => some ((middleware plugin).trans none)
  refine ⟨fun plugin => ?_, inTurn.fresh, inTurn.distinct, inTurn.inside, fun plugin member => ?_,
    ⟨fun application member plugin mentioned => ?_,
      fun application member plugin client some covers => ?_, fun application member => ?_, ?_⟩⟩
  · exact middleware plugin ▸ inTurn.named plugin
  · exact length ▸ inTurn.awaited plugin member
  · exact length ▸ inTurn.orderly.mentioned application member plugin mentioned
  · obtain ⟨installed, ready⟩ :=
      inTurn.orderly.ready application member plugin client (before some) covers
    rcases lost plugin installed with still | free
    · exact ⟨still, ready⟩
    · exact absurd covers.mem_plugins ((free installed (before some)).2 application member)
  · have once := inTurn.orderly.once application member
    exact ⟨fun plugin client some => once.pending plugin client (before some), once.rest⟩
  · exact inTurn.orderly.apart.imp fun apart plugin client some =>
      apart plugin client (before some)

/-- A plugin that is free can be marked as not installed. -/
theorem InTurn.markUninstalled (inTurn : InTurn manager) {plugin : Nat}
    (free : manager.isFree plugin)
    : InTurn (manager.setInstalled plugin false) := by
  refine inTurn.lose (List.length_modify ..)
    (fun other => middlewareOf_setInstalled manager plugin other false) fun other installed => ?_
  by_cases same : plugin = other
  · exact .inr (same ▸ free)
  · exact .inl (mem_getInstalled_markUninstalled.mpr ⟨installed, same⟩)

/-- A plugin that is free can be deleted. -/
theorem InTurn.delete (inTurn : InTurn manager) (id : String) (unregistering : List String)
    (free : ∀ plugin ∈ manager.plugins.get id, manager.isFree plugin)
    : InTurn
        { manager with plugins := manager.plugins.delete id, unregistering := unregistering } :=
  inTurn.lose rfl (fun _ => rfl) fun plugin installed =>
    (mem_getInstalled_delete installed).imp_right (free plugin)

/-- No application mentions a new plugin. -/
theorem InTurn.register (inTurn : InTurn manager) (applied : WellApplied manager)
    (config : PluginConfig) (absent : manager.plugins.get config.id = none)
    (named : "" ∉ config.middleware)
    : InTurn
        { manager with
          plugins := manager.plugins.set config.id manager.instances.length
          instances := manager.instances ++ [{ config := config }] } := by
  let after : PluginManager :=
    { manager with
      plugins := manager.plugins.set config.id manager.instances.length
      instances := manager.instances ++ [{ config := config }] }
  have length : after.instances.length = manager.instances.length + 1 := by simp [after]
  have before {application : Application} (member : application ∈ manager.works) {plugin : Nat}
      (mentioned : plugin ∈ application.plugins) (some : after.middlewareOf plugin ≠ [])
      : manager.middlewareOf plugin ≠ [] := by
    have inside := inTurn.orderly.mentioned application member plugin mentioned
    exact middlewareOf_register manager config inside ▸ some
  show InTurn after
  refine ⟨fun plugin => ?_, inTurn.fresh, inTurn.distinct, inTurn.inside, fun plugin member => ?_,
    ⟨fun application member plugin mentioned => ?_,
      fun application member plugin client some covers => ?_, fun application member => ?_, ?_⟩⟩
  · rcases Nat.lt_trichotomy plugin manager.instances.length with isOld | rfl | beyond
    · exact (middlewareOf_register manager config isOld).symm ▸ inTurn.named plugin
    · simpa [PluginManager.middlewareOf, after] using named
    · have none : after.instances[plugin]? = none :=
        List.getElem?_eq_none_iff.mpr (length ▸ beyond)
      simp [PluginManager.middlewareOf, none]
  · exact length ▸ Nat.lt_succ_of_lt (inTurn.awaited plugin member)
  · exact length
      ▸ Nat.lt_succ_of_lt (inTurn.orderly.mentioned application member plugin mentioned)
  · have ready :=
      inTurn.orderly.ready application member plugin client
        (before member covers.mem_plugins some) covers
    exact ready.imp_left (mem_getInstalled_register applied.below absent).mpr
  · have once := inTurn.orderly.once application member
    refine ⟨fun plugin client some pending => ?_, once.rest⟩
    have covers : application.covers manager.clients plugin client := .inl pending
    exact once.pending plugin client (before member covers.mem_plugins some) pending
  · refine inTurn.orderly.apart.imp_of_mem fun isFirst _ apart plugin client some covers => ?_
    exact apart plugin client (before isFirst covers.mem_plugins some) covers

/-- `install` applies a plugin that is registered and not installed. -/
theorem InTurn.install (inTurn : InTurn manager) (applied : WellApplied manager)
    (notRunning : manager.running = none) {plugin : Nat}
    (registered : plugin ∈ manager.plugins.values)
    : InTurn (manager.install plugin) := by
  have there := applied.below plugin registered
  unfold PluginManager.install
  split
  · exact inTurn
  · rename_i notInstalled
    split
    · refine inTurn.addTask manager.unregistering rfl fun other same => ?_
      obtain rfl := PluginTask.onInstall.inj same
      exact there
    · exact inTurn.finishInstall applied notRunning there
        fun _ => ⟨registered, Bool.eq_false_iff.mpr notInstalled⟩

/-- `uninstall` without a hook must find the plugin free. -/
theorem InTurn.uninstall (inTurn : InTurn manager) {plugin : Nat}
    (free : manager.has PluginConfig.hasOnUninstall plugin = false → manager.isFree plugin)
    : InTurn (manager.uninstall plugin) := by
  unfold PluginManager.uninstall
  split
  · exact inTurn
  · split
    · exact inTurn.addTask manager.unregistering rfl fun _ same => by cases same
    · rename_i noHook
      exact inTurn.markUninstalled (free (Bool.eq_false_iff.mpr noHook))

/-- `unregister` must find the plugin free unless it calls the hook first. -/
theorem InTurn.unregister (inTurn : InTurn manager) {id : String} {plugin : Nat}
    (registered : manager.plugins.get id = some plugin)
    (free
      : manager.isInstalled plugin && manager.has PluginConfig.hasOnUninstall plugin = true
        ∨ manager.isFree plugin)
    : InTurn (manager.unregister id plugin) := by
  unfold PluginManager.unregister PluginManager.uninstall
  cases installed : manager.isInstalled plugin with
  | false =>
      refine inTurn.delete id manager.unregistering fun other isThere => ?_
      obtain rfl := Option.some.inj (registered.symm.trans isThere)
      simpa [installed] using free
  | true =>
      cases hook : manager.has PluginConfig.hasOnUninstall plugin with
      | true => exact inTurn.addTask (id :: manager.unregistering) rfl fun _ same => by cases same
      | false =>
          have isFree : manager.isFree plugin := by simpa [installed, hook] using free
          have marked := inTurn.markUninstalled isFree
          refine marked.delete id manager.unregistering fun other isThere isInstalled => ?_
          obtain rfl := Option.some.inj (registered.symm.trans isThere)
          exact absurd rfl (mem_getInstalled_markUninstalled.mp isInstalled).2

-----------------------------------------------------------------------------------------
-- Runs
-----------------------------------------------------------------------------------------

/-- A plugin that is free is nowhere, since clients have nothing of plugins that are not installed.
-/
theorem WellApplied.isNowhere_of_isFree (applied : WellApplied manager) {plugin : Nat}
    (free : manager.isFree plugin)
    : manager.isNowhere plugin := by
  intro client inside
  rcases applied.applied client plugin with nothing | ⟨all, installed⟩
  · exact nothing
  · by_cases isEmpty : manager.middlewareOf plugin = []
    · exact all.trans isEmpty
    · exact (free installed isEmpty).1 client inside

/-- A task that waits has no part in what is free. -/
theorem PluginManager.isFree.eraseTask {plugin : Nat} (free : manager.isFree plugin) (place : Nat)
    : { manager with tasks := manager.tasks.eraseIdx place }.isFree plugin := by
  intro installed some
  refine (free installed some).imp_right fun untouched application member => ?_
  refine untouched application ?_
  rcases List.mem_append.mp member with running | waiting
  · exact List.mem_append_left _ running
  · exact List.mem_append_right _
      (List.Sublist.filterMap _ (List.eraseIdx_sublist ..) |>.subset waiting)

/-- Calls come from outside the loops of the manager. -/
theorem not_running_of_call {result : Option PluginManager}
    (taken : (if manager.running.isNone then result else none) = some next)
    : manager.running = none ∧ result = some next := by
  split at taken
  · rename_i notRunning
    exact ⟨Option.isNone_iff_eq_none.mp notRunning, taken⟩
  · cases taken

/-- No loop runs while the manager is idle. -/
theorem not_running_of_idle (idle : manager.idle = true) : manager.running = none :=
  Option.isNone_iff_eq_none.mp (Bool.and_eq_true_iff.mp idle).1

/-- What a running application is about to add is missing. -/
theorem InTurn.missing (inTurn : InTurn manager) {plugin client : Nat} {loop : PluginLoop}
    (running : manager.running = some ⟨some (plugin, client), loop⟩)
    (some : manager.middlewareOf plugin ≠ [])
    : plugin ∈ manager.getInstalled
      ∧ manager.added client plugin = []
      ∧ "" ∉ manager.middlewareOf plugin := by
  have member : ⟨Option.some (plugin, client), loop⟩ ∈ manager.works :=
    List.mem_append_left _ (Option.mem_toList.mpr running)
  obtain ⟨installed, missing, -⟩ :=
    inTurn.orderly.ready _ member plugin client some (.inl rfl)
  exact ⟨installed, missing, inTurn.named plugin⟩

/-- Every step in turn keeps both what clients have and what is still to come, by cases on the
action.
-/
theorem inTurn_step (manager : PluginManager) (action : PluginAction) (next : PluginManager)
    (changes : changesInTurn manager action) (taken : pluginStep manager action = some next)
    (both : WellApplied manager ∧ InTurn manager)
    : WellApplied next ∧ InTurn next := by
  obtain ⟨applied, inTurn⟩ := both
  cases action with
  | register config =>
      obtain ⟨notRunning, isNext⟩ := not_running_of_call taken
      obtain rfl := Option.some.inj isNext
      unfold PluginManager.register
      split
      · exact ⟨applied, inTurn⟩
      · rename_i absent
        have stillApplied := applied.register config absent
        have stillInTurn := inTurn.register applied config absent changes
        dsimp only
        split
        · refine ⟨stillApplied.install notRunning _,
            stillInTurn.install stillApplied notRunning ?_⟩
          rw [InsertionMap.values_set_of_absent absent]
          exact List.mem_append_right _ (List.mem_singleton_self _)
        · exact ⟨stillApplied, stillInTurn⟩
  | unregister id =>
      obtain ⟨notRunning, isNext⟩ := not_running_of_call taken
      split at isNext
      · exact Option.some.inj isNext ▸ ⟨applied, inTurn⟩
      · rename_i plugin registered
        obtain rfl := Option.some.inj isNext
        have free := changes plugin registered
        exact ⟨applied.unregister registered (free.imp_right applied.isNowhere_of_isFree),
          inTurn.unregister registered free⟩
  | finishUnregister =>
      simp only [pluginStep] at taken
      split at taken
      · rename_i id others notRunning isFirst
        obtain rfl := Option.some.inj taken
        have free := changes id (by rw [isFirst]; rfl)
        exact ⟨applied.delete id others
            fun plugin found => applied.isNowhere_of_isFree (free plugin found),
          inTurn.delete id others free⟩
      · cases taken
  | install id =>
      obtain ⟨notRunning, isNext⟩ := not_running_of_call taken
      split at isNext
      · exact Option.some.inj isNext ▸ ⟨applied, inTurn⟩
      · rename_i plugin found
        obtain rfl := Option.some.inj isNext
        have registered : plugin ∈ manager.plugins.values :=
          List.mem_map.mpr ⟨_, InsertionMap.get_eq_some_iff.mp found, rfl⟩
        exact ⟨applied.install notRunning plugin, inTurn.install applied notRunning registered⟩
  | uninstall id =>
      obtain ⟨notRunning, isNext⟩ := not_running_of_call taken
      split at isNext
      · exact Option.some.inj isNext ▸ ⟨applied, inTurn⟩
      · rename_i plugin found
        obtain rfl := Option.some.inj isNext
        have free := changes plugin found
        exact ⟨applied.uninstall fun noHook => applied.isNowhere_of_isFree (free noHook),
          inTurn.uninstall free⟩
  | construct =>
      obtain ⟨notRunning, isNext⟩ := not_running_of_call taken
      exact Option.some.inj isNext ▸ ⟨applied.construct, inTurn.construct changes⟩
  | timer client =>
      simp only [pluginStep] at taken
      split at taken
      · rename_i may
        obtain ⟨idle, waits⟩ := Bool.and_eq_true_iff.mp may
        have notRunning := not_running_of_idle idle
        obtain rfl := Option.some.inj taken
        exact ⟨applied.applyToClient notRunning client,
          inTurn.applyToClient applied notRunning (of_decide_eq_true waits) changes⟩
      · cases taken
  | advance =>
      simp only [pluginStep] at taken
      split at taken
      · cases taken
      · rename_i application running
        obtain ⟨pending, loop⟩ := application
        cases pending with
        | none => exact Option.some.inj taken ▸ ⟨applied.turn running, inTurn.turn running⟩
        | some pair =>
            exact Option.some.inj taken
              ▸ ⟨applied.useMiddleware running (inTurn.missing running),
                inTurn.useMiddleware running⟩
  | resolves place =>
      simp only [pluginStep] at taken
      split at taken
      · rename_i idle
        have notRunning := not_running_of_idle idle
        split at taken
        · cases taken
        · rename_i plugin found
          obtain rfl := Option.some.inj taken
          have erased := applied.eraseTask notRunning found fun _ isTask => by cases isTask
          have there := inTurn.awaited plugin (List.mem_of_getElem? found)
          exact ⟨erased.finishInstall notRunning plugin,
            (inTurn.eraseTask notRunning found).finishInstall erased notRunning there
              ((changes _ found).1 plugin rfl)⟩
        · rename_i plugin found
          obtain rfl := Option.some.inj taken
          have erased := applied.eraseTask notRunning found fun _ isTask => by cases isTask
          have free := (changes _ found).2 plugin rfl
          exact ⟨erased.markUninstalled (applied.isNowhere_of_isFree free),
            (inTurn.eraseTask notRunning found).markUninstalled (free.eraseTask place)⟩
        · rename_i application found
          exact Option.some.inj taken
            ▸ ⟨applied.resume notRunning found, inTurn.resume notRunning found⟩
      · cases taken
  | rejects place =>
      simp only [pluginStep] at taken
      split at taken
      · rename_i idle
        have notRunning := not_running_of_idle idle
        split at taken
        · rename_i plugin found
          have erased := applied.eraseTask notRunning found fun _ isTask => by cases isTask
          exact Option.some.inj taken ▸ ⟨erased, inTurn.eraseTask notRunning found⟩
        · rename_i plugin found
          have erased := applied.eraseTask notRunning found fun _ isTask => by cases isTask
          exact Option.some.inj taken ▸ ⟨erased, inTurn.eraseTask notRunning found⟩
        · rename_i pair loop found
          obtain rfl := Option.some.inj taken
          have empty := changes _ found
          refine ⟨applied.eraseTask notRunning found fun application isTask => ?_,
            inTurn.eraseTask notRunning found⟩
          obtain rfl := PluginTask.applying.inj isTask
          exact fun plugin client some covers => some (empty plugin covers.mem_plugins)
        · cases taken
      · cases taken

/-- A manager that has just been created has nothing to do. -/
theorem inTurn_initial (autoInstall : Bool)
    : WellApplied (.initial autoInstall) ∧ InTurn (.initial autoInstall) := by
  refine ⟨⟨List.nodup_nil, ?_, ?_, fun client plugin => .inl rfl, ?_⟩,
    ⟨fun plugin => List.not_mem_nil, ?_, List.nodup_nil, ?_, ?_, ⟨?_, ?_, ?_, List.Pairwise.nil⟩⟩⟩
  · exact fun _ member => by cases member
  · exact fun _ inside => by cases inside
  · exact fun _ inside => by cases inside
  · exact fun _ member => by cases member
  · exact fun _ member => by cases member
  · exact fun _ member => by cases member
  · exact fun _ member => by cases member
  · exact fun _ member => by cases member
  · exact fun _ member => by cases member

/-- In every run in which plugins and clients come and go in turn, whenever all work is done, every
client has each middleware of the installed plugins once and none of other plugins. Witness: a
client has all middleware of an installed plugin or none, and what it lacks is owed by its timer or
by a single application, which comes to it once.
-/
theorem plugins_installedOnce (autoInstall : Bool) (actions : List PluginAction)
    (inTurn : stepsSatisfy pluginStep changesInTurn (.initial autoInstall) actions)
    (front : List PluginAction) (manager : PluginManager) (isPrefix : front <+: actions)
    (reached : run pluginStep (.initial autoInstall) front = some manager)
    (settled : manager.isSettled)
    : installedOnce manager := by
  have both := run_preserves_of_stepsSatisfy inTurn_step (inTurn_initial autoInstall)
    (stepsSatisfy_of_isPrefix isPrefix inTurn) reached
  exact both.1.installedOnce settled

/-- A client is constructed after a plugin was installed, and its timer fires. -/
private def constructedAfterwards : List PluginAction :=
  [.register { id := "p", middleware := ["m"] }, .install "p", .advance, .construct, .timer 0,
    .advance, .advance, .resolves 0, .advance]

/-- A plugin is installed after a client was constructed, and uninstalled again. -/
private def uninstalledAgain : List PluginAction :=
  [.register { id := "p", middleware := ["m"] }, .construct, .timer 0, .advance, .install "p",
    .advance, .advance, .resolves 0, .advance, .uninstall "p"]

/-- A plugin is installed again while its `onInstall` hook is pending. -/
private def installedMeanwhile : List PluginAction :=
  [.register { id := "p", middleware := ["m"], hasOnInstall := true }, .construct, .timer 0,
    .advance, .install "p", .install "p", .resolves 0, .advance, .advance, .resolves 0, .advance,
    .advance, .resolves 0, .advance, .resolves 0, .advance]

/-- When all work is done, a client has the middleware of a plugin twice, or still has that of a
plugin that is not installed any more.
-/
theorem plugins_not_installedOnce
    : (∃ final,
        run pluginStep (.initial false) constructedAfterwards = some final
        ∧ final.isSettled
        ∧ final.added 0 0 = ["m", "m"]
        ∧ ¬ installedOnce final)
      ∧ (∃ final,
          run pluginStep (.initial false) uninstalledAgain = some final
          ∧ final.isSettled
          ∧ final.getInstalled = []
          ∧ final.added 0 0 = ["m"]
          ∧ ¬ installedOnce final)
      ∧ ∃ final,
          run pluginStep (.initial false) installedMeanwhile = some final
          ∧ final.isSettled
          ∧ final.added 0 0 = ["m", "m"]
          ∧ ¬ installedOnce final := by
  refine ⟨⟨_, rfl, ⟨rfl, rfl, rfl, rfl⟩, rfl, fun once => ?_⟩,
    ⟨_, rfl, ⟨rfl, rfl, rfl, rfl⟩, rfl, rfl, fun once => ?_⟩,
    ⟨_, rfl, ⟨rfl, rfl, rfl, rfl⟩, rfl, fun once => ?_⟩⟩
  · exact absurd (once 0 (by decide) 0 (by decide)) (by decide)
  · exact absurd (once 0 (by decide) 0 (by decide)) (by decide)
  · exact absurd (once 0 (by decide) 0 (by decide)) (by decide)

/-- A plugin is installed after two clients were constructed, with a hook for each of them, while
the manager still applies another one, which is unregistered in the end.
-/
private def installedLater : List PluginAction :=
  [.register
      { id := "p", middleware := ["m", "n"], hasOnInstall := true, hasAfterClientInit := true },
    .register { id := "q" }, .install "q", .advance, .construct, .construct, .timer 0, .advance,
    .advance, .timer 1, .advance, .advance, .install "p", .resolves 2, .advance, .resolves 0,
    .advance, .resolves 0, .advance, .resolves 0, .advance, .resolves 0, .advance, .resolves 0,
    .advance, .resolves 0, .advance, .unregister "q"]

/-- Both clients have the middleware of the plugin that is installed. -/
theorem plugins_installedOnce_installedLater
    : ∃ final,
        run pluginStep (.initial false) installedLater = some final
        ∧ final.getInstalled = [0]
        ∧ final.added 0 0 = ["m", "n"]
        ∧ final.added 1 0 = ["m", "n"]
        ∧ installedOnce final := by
  refine ⟨_, rfl, rfl, rfl, rfl, ?_⟩
  exact plugins_installedOnce false installedLater (by decide) installedLater _ List.prefix_rfl rfl
    ⟨rfl, rfl, rfl, rfl⟩

end Axionvera.Plugins
