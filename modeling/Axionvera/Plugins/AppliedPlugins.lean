import Axionvera.Plugins.PluginManager
import Mathlib.Data.List.TakeWhile

/-! What clients have of the installed plugins and what is still to come, as long as middleware is
only added where it is missing, and plugins that clients have middleware of stay installed.
-/

namespace Axionvera.Plugins

open Axionvera.Foundation

namespace PluginManager

/-- The names of the middleware that a client has from a plugin. -/
def added (manager : PluginManager) (client plugin : Nat) : List String :=
  ((manager.pipelines[client]?.getD []).filter fun middleware => middleware.plugin = plugin).map
    PluginMiddleware.name

/-- All work is done: no loop is running, and neither a call nor a hook nor a timer is pending. -/
def isSettled (manager : PluginManager) : Prop :=
  manager.running = none
  ∧ manager.unregistering = []
  ∧ manager.tasks = []
  ∧ manager.timers = []

/-- No client has middleware of the plugin. -/
def isNowhere (manager : PluginManager) (plugin : Nat) : Prop :=
  ∀ client < manager.pipelines.length, manager.added client plugin = []

instance (manager : PluginManager) (plugin : Nat) : Decidable (manager.isNowhere plugin) :=
  inferInstanceAs (Decidable (∀ client < manager.pipelines.length, _ = []))

end PluginManager

/-- Every client has each middleware of the installed plugins once, and none of other plugins. -/
def installedOnce (manager : PluginManager) : Prop :=
  ∀ client < manager.pipelines.length,
    ∀ plugin < manager.instances.length,
      (manager.added client plugin).Perm
        (if plugin ∈ manager.getInstalled then manager.middlewareOf plugin else [])

-----------------------------------------------------------------------------------------
-- Work that is still to be done
-----------------------------------------------------------------------------------------

/-- The loop will come to applying the plugin to the client. -/
def PluginLoop.covers (clients : LiveMap Nat Unit) (plugin client : Nat) : PluginLoop → Prop
  | .clients applied cursor =>
      applied = plugin ∧ ∃ entry ∈ clients.entries, entry.key = client ∧ cursor ≤ entry.stamp
  | .plugins served rest => served = client ∧ plugin ∈ rest

/-- The application will use the middleware of the plugin on the client. -/
def Application.covers (clients : LiveMap Nat Unit) (plugin client : Nat)
    (application : Application) : Prop :=
  application.pending = some (plugin, client) ∨ application.loop.covers clients plugin client

/-- Some application, running or waiting, will use the middleware of the plugin on the client. -/
def PluginManager.owes (manager : PluginManager) (plugin client : Nat) : Prop :=
  ∃ application,
    (manager.running = some application ∨ .applying application ∈ manager.tasks)
    ∧ application.covers manager.clients plugin client

/-- What holds while middleware is added where it is missing: a client has all middleware of an
installed plugin or none, and what it lacks is still to come, by an application or by its timer.
-/
structure WellApplied (manager : PluginManager) : Prop where
  distinct : manager.plugins.values.Nodup
  below : ∀ plugin ∈ manager.plugins.values, plugin < manager.instances.length
  known
    : ∀ client < manager.pipelines.length,
        client ∈ manager.timers ∨ ∃ entry ∈ manager.clients.entries, entry.key = client
  applied
    : ∀ client plugin,
        manager.added client plugin = []
        ∨ manager.added client plugin = manager.middlewareOf plugin
          ∧ plugin ∈ manager.getInstalled
  complete
    : ∀ client < manager.pipelines.length,
        ∀ plugin ∈ manager.getInstalled,
          manager.middlewareOf plugin ≠ []
          → manager.added client plugin = manager.middlewareOf plugin
            ∨ client ∈ manager.timers
            ∨ manager.owes plugin client

variable {manager next : PluginManager}

/-- When all work is done, nothing is still to come. -/
theorem WellApplied.installedOnce (applied : WellApplied manager) (settled : manager.isSettled)
    : installedOnce manager := by
  obtain ⟨notRunning, -, noTasks, noTimers⟩ := settled
  intro client inside plugin _
  split
  · rename_i installed
    by_cases none : manager.middlewareOf plugin = []
    · rcases applied.applied client plugin with nothing | ⟨all, -⟩
      · rw [nothing, none]
      · rw [all]
    · rcases applied.complete client inside plugin installed none with all | waits | owed
      · rw [all]
      · rw [noTimers] at waits
        cases waits
      · obtain ⟨application, running | waiting, -⟩ := owed
        · rw [running] at notRunning
          cases notRunning
        · rw [noTasks] at waiting
          cases waiting
  · rename_i notInstalled
    rcases applied.applied client plugin with nothing | ⟨-, installed⟩
    · rw [nothing]
    · exact absurd installed notInstalled

/-- Installed plugins are registered, and say so. -/
theorem mem_getInstalled {plugin : Nat}
    : plugin ∈ manager.getInstalled
      ↔ plugin ∈ manager.plugins.values ∧ manager.isInstalled plugin = true := by
  simp [PluginManager.getInstalled]

/-- Setting `installed` of an instance leaves its middleware. -/
@[simp]
theorem middlewareOf_setInstalled (manager : PluginManager) (plugin other : Nat) (installed : Bool)
    : (manager.setInstalled plugin installed).middlewareOf other = manager.middlewareOf other := by
  simp only [PluginManager.middlewareOf, PluginManager.setInstalled, List.getElem?_modify]
  cases manager.instances[other]? with
  | none => rfl
  | some found =>
      by_cases same : plugin = other
      · simp [same]
      · simp [same]

/-- Setting `installed` of an instance leaves that of the others. -/
theorem isInstalled_setInstalled (manager : PluginManager) (plugin other : Nat) (installed : Bool)
    : (manager.setInstalled plugin installed).isInstalled other
      = if plugin = other then manager.instances[other]?.isSome && installed
        else manager.isInstalled other := by
  simp only [PluginManager.isInstalled, PluginManager.setInstalled, List.getElem?_modify]
  cases manager.instances[other]? with
  | none => simp
  | some found =>
      by_cases same : plugin = other
      · simp [same]
      · simp [same]

/-- Plugins that are there stay installed when one of them is marked as installed. -/
theorem mem_getInstalled_of_marked {plugin other : Nat}
    (below : ∀ registered ∈ manager.plugins.values, registered < manager.instances.length)
    (installed : other ∈ manager.getInstalled)
    : other ∈ (manager.setInstalled plugin true).getInstalled := by
  obtain ⟨registered, was⟩ := mem_getInstalled.mp installed
  refine mem_getInstalled.mpr
    ⟨registered, (isInstalled_setInstalled manager plugin other true).trans ?_⟩
  split
  · simp [below other registered]
  · exact was

/-- Marking a plugin as not installed takes it from the installed ones, and no other. -/
theorem mem_getInstalled_markUninstalled {plugin other : Nat}
    : other ∈ (manager.setInstalled plugin false).getInstalled
      ↔ other ∈ manager.getInstalled ∧ plugin ≠ other := by
  have values : (manager.setInstalled plugin false).plugins.values = manager.plugins.values := rfl
  rw [mem_getInstalled, mem_getInstalled, values, isInstalled_setInstalled]
  by_cases same : plugin = other
  · simp [same]
  · simp [same]

/-- Deleting a plugin takes it from the installed ones, and no other. -/
theorem mem_getInstalled_delete {id : String} {other : Nat}
    (installed : other ∈ manager.getInstalled)
    : other ∈ { manager with plugins := manager.plugins.delete id }.getInstalled
      ∨ manager.plugins.get id = some other := by
  obtain ⟨registered, was⟩ := mem_getInstalled.mp installed
  obtain ⟨⟨key, _⟩, member, rfl⟩ := List.mem_map.mp registered
  by_cases same : key = id
  · exact .inr (InsertionMap.get_eq_some_iff.mpr (same ▸ member))
  · refine .inl (mem_getInstalled.mpr ⟨List.mem_map.mpr ⟨_, ?_, rfl⟩, was⟩)
    exact List.mem_filter.mpr ⟨member, decide_eq_true same⟩

/-- A new plugin leaves the middleware of those that are there. -/
theorem middlewareOf_register (manager : PluginManager) (config : PluginConfig) {plugin : Nat}
    (inside : plugin < manager.instances.length)
    : PluginManager.middlewareOf
        { manager with
          plugins := manager.plugins.set config.id manager.instances.length
          instances := manager.instances ++ [{ config := config }] }
        plugin
      = manager.middlewareOf plugin := by
  simp only [PluginManager.middlewareOf, List.getElem?_append_left inside]

/-- A new plugin is not installed. -/
theorem mem_getInstalled_register {config : PluginConfig} {plugin : Nat}
    (below : ∀ registered ∈ manager.plugins.values, registered < manager.instances.length)
    (absent : manager.plugins.get config.id = none)
    : plugin
        ∈ PluginManager.getInstalled
            { manager with
              plugins := manager.plugins.set config.id manager.instances.length
              instances := manager.instances ++ [{ config := config }] }
      ↔ plugin ∈ manager.getInstalled := by
  simp only [mem_getInstalled, InsertionMap.values_set_of_absent absent, List.mem_append,
    List.mem_singleton]
  constructor
  · intro given
    obtain ⟨registered | rfl, isNow⟩ := given
    · refine ⟨registered, ?_⟩
      simpa only [PluginManager.isInstalled, List.getElem?_append_left (below plugin registered)]
        using isNow
    · simp [PluginManager.isInstalled] at isNow
  · intro given
    obtain ⟨registered, was⟩ := given
    refine ⟨.inl registered, ?_⟩
    simpa only [PluginManager.isInstalled, List.getElem?_append_left (below plugin registered)]
      using was

/-- All middleware is used if it has names. -/
theorem useMiddleware_of_named (manager : PluginManager) {plugin : Nat} (client : Nat)
    (loop : PluginLoop) (named : "" ∉ manager.middlewareOf plugin)
    : manager.useMiddleware plugin client loop
      = { manager with
          pipelines :=
            manager.pipelines.modify client fun pipeline =>
              pipeline ++ (manager.middlewareOf plugin).map fun name => ⟨plugin, name⟩
          running := none
          tasks := manager.tasks ++ [.applying ⟨none, loop⟩] } := by
  have allUsed
      : (manager.middlewareOf plugin).takeWhile (fun name => decide (name ≠ ""))
        = manager.middlewareOf plugin := by
    refine List.takeWhile_eq_self_iff.mpr fun name member => decide_eq_true fun isEmpty => ?_
    exact named (isEmpty ▸ member)
  unfold PluginManager.useMiddleware
  dsimp only
  rw [allUsed, if_neg named]

-----------------------------------------------------------------------------------------
-- What the steps do to it
-----------------------------------------------------------------------------------------

/-- If nothing but the work changes, what is owed must be owed still. -/
theorem WellApplied.rework (applied : WellApplied manager) (running : Option Application)
    (tasks : List PluginTask) (unregistering : List String)
    (owed
      : ∀ plugin client,
          manager.middlewareOf plugin ≠ []
          → manager.owes plugin client
          → { manager with running := running, tasks := tasks }.owes plugin client)
    : WellApplied
        { manager with running := running, tasks := tasks, unregistering := unregistering } :=
  ⟨applied.distinct, applied.below, applied.known, applied.applied,
    fun client inside plugin installed some =>
      (applied.complete client inside plugin installed some).imp_right fun waits =>
        waits.imp_right (owed plugin client some)⟩

/-- More tasks do no harm. -/
theorem WellApplied.addTask (applied : WellApplied manager) (task : PluginTask)
    (unregistering : List String)
    : WellApplied
        { manager with tasks := manager.tasks ++ [task], unregistering := unregistering } := by
  refine applied.rework manager.running _ _ fun plugin client _ owed => ?_
  obtain ⟨application, works, covers⟩ := owed
  exact ⟨application, works.imp_right (List.mem_append_left _), covers⟩

/-- What waits in the tasks does so still when one of them is taken out, unless it is that. -/
theorem PluginManager.owes.eraseIdx {plugin client place : Nat} {task : PluginTask}
    (owed : manager.owes plugin client) (notRunning : manager.running = none)
    (found : manager.tasks[place]? = some task)
    : { manager with tasks := manager.tasks.eraseIdx place }.owes plugin client
      ∨ ∃ application,
          task = .applying application ∧ application.covers manager.clients plugin client := by
  obtain ⟨application, running | waiting, covers⟩ := owed
  · rw [notRunning] at running
    cases running
  · obtain ⟨position, isThere⟩ := List.mem_iff_getElem?.mp waiting
    by_cases same : position = place
    · refine .inr ⟨application, ?_, covers⟩
      rw [same, found] at isThere
      exact Option.some.inj isThere
    · exact .inl ⟨application,
        .inr (List.mem_eraseIdx_iff_getElem?.mpr ⟨position, same, isThere⟩), covers⟩

/-- A task that applies nothing can be taken out. -/
theorem WellApplied.eraseTask (applied : WellApplied manager) (notRunning : manager.running = none)
    {place : Nat} {task : PluginTask} (found : manager.tasks[place]? = some task)
    (harmless
      : ∀ application,
          task = .applying application
          → ∀ plugin client,
              manager.middlewareOf plugin ≠ []
              → ¬ application.covers manager.clients plugin client)
    : WellApplied { manager with tasks := manager.tasks.eraseIdx place } := by
  refine applied.rework manager.running _ manager.unregistering fun plugin client some owed => ?_
  rcases owed.eraseIdx notRunning found with still | ⟨application, isTask, covers⟩
  · exact still
  · exact absurd covers (harmless application isTask plugin client some)

/-- An application that waits can run. -/
theorem WellApplied.resume (applied : WellApplied manager) (notRunning : manager.running = none)
    {place : Nat} {application : Application}
    (found : manager.tasks[place]? = some (.applying application))
    : WellApplied
        { manager with
          running := some application, tasks := manager.tasks.eraseIdx place } := by
  refine applied.rework (some application) _ manager.unregistering fun plugin client _ owed => ?_
  rcases owed.eraseIdx notRunning found with
    ⟨other, running | waiting, covers⟩ | ⟨same, isTask, covers⟩
  · rw [show manager.running = some other from running] at notRunning
    cases notRunning
  · exact ⟨other, .inr waiting, covers⟩
  · obtain rfl := PluginTask.applying.inj isTask
    exact ⟨application, .inl rfl, covers⟩

/-- A running application can give way to another that covers as much. -/
theorem WellApplied.goOn (applied : WellApplied manager) {application : Application}
    (running : manager.running = some application)
    {further : Option Application} {tasks : List PluginTask} (more : manager.tasks ⊆ tasks)
    (covered
      : ∀ plugin client,
          manager.middlewareOf plugin ≠ []
          → application.covers manager.clients plugin client
          → { manager with running := further, tasks := tasks }.owes plugin client)
    : WellApplied { manager with running := further, tasks := tasks } := by
  refine applied.rework further tasks manager.unregistering fun plugin client some owed => ?_
  obtain ⟨other, isRunning | waiting, covers⟩ := owed
  · obtain rfl := Option.some.inj (running.symm.trans isRunning)
    exact covered plugin client some covers
  · exact ⟨other, .inr (more waiting), covers⟩

/-- `applyPluginToClient` covers its plugin and client, and what the loop covers from then on. -/
theorem WellApplied.applyPluginToClient (applied : WellApplied manager) {application : Application}
    (running : manager.running = some application) (plugin client : Nat) (loop : PluginLoop)
    (covered
      : ∀ other target,
          application.covers manager.clients other target
          → (⟨some (plugin, client), loop⟩ : Application).covers manager.clients other target)
    : WellApplied (manager.applyPluginToClient plugin client loop) := by
  unfold PluginManager.applyPluginToClient
  dsimp only
  split
  · refine applied.goOn running (List.subset_append_left _ _) fun other target _ covers => ?_
    exact ⟨_, .inr (List.mem_append_right _ (List.mem_singleton_self _)),
      covered other target covers⟩
  · refine applied.goOn running (List.Subset.refl _) fun other target _ covers => ?_
    exact ⟨_, .inl rfl, covered other target covers⟩

/-- A turn of a loop passes no client and no plugin without applying it. -/
theorem WellApplied.turn (applied : WellApplied manager) {loop : PluginLoop}
    (running : manager.running = some ⟨none, loop⟩)
    : WellApplied (manager.turn loop) := by
  have ends (nothing : ∀ plugin client, ¬ loop.covers manager.clients plugin client)
      : WellApplied { manager with running := none } := by
    refine applied.goOn running (List.Subset.refl _) fun plugin client _ covers => ?_
    rcases covers with pending | later
    · cases pending
    · exact absurd later (nothing plugin client)
  cases loop with
  | clients plugin cursor =>
      unfold PluginManager.turn
      dsimp only
      cases ahead : manager.clients.next cursor with
      | none =>
          refine ends fun other client covers => ?_
          obtain ⟨_, entry, member, _, notPassed⟩ := covers
          have passed := LiveMap.next_eq_none_iff.mp ahead entry member
          omega
      | some entry =>
          obtain ⟨isEntry, _, least⟩ := LiveMap.next_eq_some_iff.mp ahead
          refine applied.applyPluginToClient running plugin entry.key _
            fun other target covers => ?_
          rcases covers with pending | ⟨rfl, found, member, rfl, notPassed⟩
          · cases pending
          · rcases Nat.lt_or_eq_of_le (least found member notPassed) with later | same
            · exact .inr ⟨rfl, found, member, rfl, later⟩
            · obtain rfl := LiveMap.eq_of_stamp isEntry member same
              exact .inl rfl
  | plugins client rest =>
      cases rest with
      | nil => exact ends fun plugin target covers => by cases covers.2
      | cons plugin others =>
          refine applied.applyPluginToClient running plugin client _ fun other target covers => ?_
          rcases covers with pending | ⟨rfl, member⟩
          · cases pending
          · rcases List.mem_cons.mp member with rfl | later
            · exact .inl rfl
            · exact .inr ⟨rfl, later⟩

/-- The names of middleware that comes from one plugin, by induction on them. -/
theorem names_from (names : List String) (plugin other : Nat)
    : ((names.map fun name => (⟨plugin, name⟩ : PluginMiddleware)).filter fun middleware =>
        middleware.plugin = other).map PluginMiddleware.name
      = if plugin = other then names else [] := by
  induction names with
  | nil => simp
  | cons name rest ih =>
      rw [List.map_cons, List.filter_cons]
      by_cases same : plugin = other
      · rw [if_pos same] at ih
        rw [if_pos same, if_pos (decide_eq_true same), List.map_cons, ih]
      · rw [if_neg same] at ih
        rw [if_neg same, if_neg (by simpa using same), ih]

/-- What a client has after middleware of a plugin was added to the pipeline of one. -/
theorem added_modify (manager : PluginManager) (client plugin : Nat) (names : List String)
    (target other : Nat)
    : { manager with
        pipelines :=
          manager.pipelines.modify client fun pipeline =>
            pipeline ++ names.map fun name => (⟨plugin, name⟩ : PluginMiddleware) }.added target
          other
      = if client = target ∧ plugin = other ∧ target < manager.pipelines.length then
          manager.added target other ++ names
        else manager.added target other := by
  simp only [PluginManager.added, List.getElem?_modify]
  cases found : manager.pipelines[target]? with
  | none =>
      have outside := List.getElem?_eq_none_iff.mp found
      simp [Nat.not_lt.mpr outside]
  | some pipeline =>
      obtain ⟨inside, -⟩ := List.getElem?_eq_some_iff.mp found
      by_cases sameClient : client = target
      · simp only [sameClient, if_true, Option.map_eq_map, Option.map_some, Option.getD_some,
          List.filter_append, List.map_append, names_from]
        by_cases samePlugin : plugin = other
        · simp [samePlugin, inside]
        · simp [samePlugin]
      · simp [sameClient]

/-- The end of `applyPluginToClient` adds what is missing. -/
theorem WellApplied.useMiddleware (applied : WellApplied manager) {plugin client : Nat}
    {loop : PluginLoop} (running : manager.running = some ⟨some (plugin, client), loop⟩)
    (inTurn
      : manager.middlewareOf plugin ≠ []
        → plugin ∈ manager.getInstalled
          ∧ manager.added client plugin = []
          ∧ "" ∉ manager.middlewareOf plugin)
    : WellApplied (manager.useMiddleware plugin client loop) := by
  have named : "" ∉ manager.middlewareOf plugin := by
    by_cases none : manager.middlewareOf plugin = []
    · rw [none]
      exact List.not_mem_nil
    · exact (inTurn none).2.2
  rw [useMiddleware_of_named manager client loop named]
  let after : PluginManager :=
    { manager with
      pipelines :=
        manager.pipelines.modify client fun pipeline =>
          pipeline ++ (manager.middlewareOf plugin).map fun name => ⟨plugin, name⟩
      running := none
      tasks := manager.tasks ++ [.applying ⟨none, loop⟩] }
  have added (target other : Nat)
      : after.added target other
        = if client = target ∧ plugin = other ∧ target < manager.pipelines.length then
            manager.added target other ++ manager.middlewareOf plugin
          else manager.added target other :=
    added_modify manager client plugin (manager.middlewareOf plugin) target other
  have length : after.pipelines.length = manager.pipelines.length := List.length_modify ..
  show WellApplied after
  refine ⟨applied.distinct, applied.below, fun target inside => ?_, fun target other => ?_,
    fun target inside other installed some => ?_⟩
  · exact applied.known target (length ▸ inside)
  · rw [added]
    split
    · rename_i given
      obtain ⟨rfl, rfl, -⟩ := given
      by_cases none : manager.middlewareOf plugin = []
      · rw [none, List.append_nil]
        exact applied.applied client plugin
      · obtain ⟨installed, missing, -⟩ := inTurn none
        exact .inr ⟨by rw [missing]; rfl, installed⟩
    · exact applied.applied target other
  · rw [added]
    rcases applied.complete target (length ▸ inside) other installed some with all | waits | owed
    · split
      · rename_i given
        obtain ⟨rfl, rfl, -⟩ := given
        rw [(inTurn some).2.1] at all
        exact absurd all.symm some
      · exact .inl all
    · exact .inr (.inl waits)
    · obtain ⟨application, isRunning | waiting, covers⟩ := owed
      · obtain rfl := Option.some.inj (running.symm.trans isRunning)
        rcases covers with pending | later
        · obtain ⟨rfl, rfl⟩ := Prod.mk.inj (Option.some.inj pending)
          rw [if_pos ⟨rfl, rfl, length ▸ inside⟩, (inTurn some).2.1]
          exact .inl rfl
        · exact .inr (.inr ⟨⟨none, loop⟩,
            .inr (List.mem_append_right _ (List.mem_singleton_self _)), .inr later⟩)
      · exact .inr (.inr ⟨application, .inr (List.mem_append_left _ waiting), covers⟩)

/-- A plugin that is nowhere is so also beyond the clients that there are. -/
theorem PluginManager.isNowhere.added {plugin : Nat} (nowhere : manager.isNowhere plugin)
    (client : Nat)
    : manager.added client plugin = [] := by
  rcases Nat.lt_or_ge client manager.pipelines.length with inside | outside
  · exact nowhere client inside
  · simp [PluginManager.added, List.getElem?_eq_none_iff.mpr outside]

/-- An installed plugin is owed to all clients that the manager knows, and to the others by their
timers.
-/
theorem WellApplied.finishInstall (applied : WellApplied manager)
    (notRunning : manager.running = none) (plugin : Nat)
    : WellApplied (manager.finishInstall plugin) := by
  let after := manager.finishInstall plugin
  have isInstalled (other : Nat) := isInstalled_setInstalled manager plugin other true
  have middleware (other : Nat) : after.middlewareOf other = manager.middlewareOf other :=
    middlewareOf_setInstalled manager plugin other true
  have grows {other : Nat} (installed : other ∈ manager.getInstalled)
      : other ∈ after.getInstalled :=
    mem_getInstalled_of_marked applied.below installed
  have onlyNew {other : Nat} (installed : other ∈ after.getInstalled)
      : other = plugin ∨ other ∈ manager.getInstalled := by
    obtain ⟨registered, isNow⟩ := mem_getInstalled.mp installed
    by_cases same : plugin = other
    · exact .inl same.symm
    · refine .inr (mem_getInstalled.mpr ⟨registered, ?_⟩)
      rw [← isNow]
      exact ((isInstalled other).trans (if_neg same)).symm
  show WellApplied after
  refine ⟨applied.distinct, fun other registered => ?_, applied.known, fun client other => ?_,
    fun client inside other installed some => ?_⟩
  · have length : after.instances.length = manager.instances.length := List.length_modify ..
    exact length ▸ applied.below other registered
  · rw [middleware]
    exact (applied.applied client other).imp_right fun given => ⟨given.1, grows given.2⟩
  · rw [middleware] at some ⊢
    rcases onlyNew installed with rfl | before
    · rcases applied.known client inside with waits | ⟨entry, member, isClient⟩
      · exact .inr (.inl waits)
      · exact .inr (.inr
          ⟨⟨none, .clients other 0⟩, .inl rfl, .inr ⟨rfl, entry, member, isClient, Nat.zero_le _⟩⟩)
    · refine (applied.complete client inside other before some).imp_right fun waits =>
        waits.imp_right fun owed => ?_
      obtain ⟨application, isRunning | waiting, covers⟩ := owed
      · rw [notRunning] at isRunning
        cases isRunning
      · exact ⟨application, .inr waiting, covers⟩

/-- Plugins can be lost that are nowhere: the others stay as they are. -/
theorem WellApplied.lose (applied : WellApplied manager) {plugins : InsertionMap String Nat}
    {instances : List PluginInstance} {unregistering : List String}
    (distinct : plugins.values.Nodup)
    (below : ∀ plugin ∈ plugins.values, plugin < instances.length)
    (middleware
      : ∀ plugin,
          { manager with plugins := plugins, instances := instances }.middlewareOf plugin
          = manager.middlewareOf plugin)
    (fewer
      : ∀ plugin ∈ { manager with plugins := plugins, instances := instances }.getInstalled,
          plugin ∈ manager.getInstalled)
    (lost
      : ∀ plugin ∈ manager.getInstalled,
          plugin ∈ { manager with plugins := plugins, instances := instances }.getInstalled
          ∨ manager.isNowhere plugin)
    : WellApplied
        { manager with
          plugins := plugins, instances := instances, unregistering := unregistering } := by
  refine ⟨distinct, below, applied.known, fun client plugin => ?_,
    fun client inside plugin installed some => ?_⟩
  · rcases applied.applied client plugin with nothing | ⟨all, installed⟩
    · exact .inl nothing
    · rcases lost plugin installed with still | nowhere
      · exact .inr ⟨all.trans (middleware plugin).symm, still⟩
      · exact .inl (nowhere.added client)
  · have isMiddleware := middleware plugin
    have some : manager.middlewareOf plugin ≠ [] := fun none => some (isMiddleware.trans none)
    exact (applied.complete client inside plugin (fewer plugin installed) some).imp_left
      fun all => all.trans isMiddleware.symm

/-- A plugin that is nowhere can be marked as not installed. -/
theorem WellApplied.markUninstalled (applied : WellApplied manager) {plugin : Nat}
    (nowhere : manager.isNowhere plugin)
    : WellApplied (manager.setInstalled plugin false) := by
  refine applied.lose applied.distinct (fun other registered => ?_)
    (fun other => middlewareOf_setInstalled manager plugin other false)
    (fun other installed => (mem_getInstalled_markUninstalled.mp installed).1)
    (fun other installed => ?_)
  · rw [List.length_modify]
    exact applied.below other registered
  · by_cases same : plugin = other
    · exact .inr (same ▸ nowhere)
    · exact .inl (mem_getInstalled_markUninstalled.mpr ⟨installed, same⟩)

/-- A plugin that is nowhere can be deleted. -/
theorem WellApplied.delete (applied : WellApplied manager) (id : String)
    (unregistering : List String)
    (nowhere : ∀ plugin ∈ manager.plugins.get id, manager.isNowhere plugin)
    : WellApplied
        { manager with plugins := manager.plugins.delete id, unregistering := unregistering } := by
  have fewer : (manager.plugins.delete id).values.Sublist manager.plugins.values :=
    List.filter_sublist.map _
  refine applied.lose (applied.distinct.sublist fewer)
    (fun plugin registered => applied.below plugin (fewer.subset registered)) (fun _ => rfl)
    (fun plugin installed => ?_)
    (fun plugin installed => (mem_getInstalled_delete installed).imp_right (nowhere plugin))
  obtain ⟨registered, isNow⟩ := mem_getInstalled.mp installed
  exact mem_getInstalled.mpr ⟨fewer.subset registered, isNow⟩

/-- A new plugin is not installed, and nobody has its middleware. -/
theorem WellApplied.register (applied : WellApplied manager) (config : PluginConfig)
    (absent : manager.plugins.get config.id = none)
    : WellApplied
        { manager with
          plugins := manager.plugins.set config.id manager.instances.length
          instances := manager.instances ++ [{ config := config }] } := by
  let after : PluginManager :=
    { manager with
      plugins := manager.plugins.set config.id manager.instances.length
      instances := manager.instances ++ [{ config := config }] }
  have values : after.plugins.values = manager.plugins.values ++ [manager.instances.length] :=
    InsertionMap.values_set_of_absent absent _
  have same {plugin : Nat} (inside : plugin < manager.instances.length)
      : after.middlewareOf plugin = manager.middlewareOf plugin :=
    middlewareOf_register manager config inside
  have installed (plugin : Nat)
      : plugin ∈ after.getInstalled ↔ plugin ∈ manager.getInstalled :=
    mem_getInstalled_register applied.below absent
  have inside {plugin : Nat} (isInstalled : plugin ∈ manager.getInstalled)
      : plugin < manager.instances.length :=
    applied.below plugin (mem_getInstalled.mp isInstalled).1
  show WellApplied after
  refine ⟨?_, fun plugin registered => ?_, applied.known, fun client plugin => ?_,
    fun client isClient plugin isInstalled some => ?_⟩
  · rw [values, ← List.concat_eq_append]
    refine applied.distinct.concat fun member => ?_
    exact Nat.lt_irrefl _ (applied.below _ member)
  · have length : after.instances.length = manager.instances.length + 1 := by simp [after]
    rw [values, List.mem_append, List.mem_singleton] at registered
    rcases registered with old | rfl
    · exact length ▸ Nat.lt_succ_of_lt (applied.below plugin old)
    · exact length ▸ Nat.lt_succ_self _
  · rcases applied.applied client plugin with nothing | ⟨all, isInstalled⟩
    · exact .inl nothing
    · exact .inr ⟨all.trans (same (inside isInstalled)).symm, (installed plugin).mpr isInstalled⟩
  · have before := (installed plugin).mp isInstalled
    rw [same (inside before)] at some ⊢
    exact applied.complete client isClient plugin before some

/-- What a new client has from a plugin, by induction on the installed ones. -/
theorem names_flatMap {plugins : List Nat} (distinct : plugins.Nodup) (names : Nat → List String)
    (plugin : Nat)
    : ((plugins.flatMap fun other =>
          (names other).map fun name => (⟨other, name⟩ : PluginMiddleware)).filter
        fun middleware => middleware.plugin = plugin).map PluginMiddleware.name
      = if plugin ∈ plugins then names plugin else [] := by
  induction plugins with
  | nil => rfl
  | cons other rest ih =>
      obtain ⟨notInRest, distinctRest⟩ := List.nodup_cons.mp distinct
      rw [List.flatMap_cons, List.filter_append, List.map_append, names_from, ih distinctRest]
      by_cases same : other = plugin
      · subst same
        simp [notInRest]
      · simp [same, Ne.symm same]

/-- A new client has the middleware of the plugins that are installed, and its timer is set. -/
theorem WellApplied.construct (applied : WellApplied manager) : WellApplied manager.construct := by
  unfold PluginManager.construct
  split
  · exact applied
  · let after : PluginManager :=
      { manager with
        pipelines := manager.pipelines ++ [manager.getMiddleware]
        timers := manager.timers ++ [manager.pipelines.length] }
    have length : after.pipelines.length = manager.pipelines.length + 1 := by simp [after]
    have old {client : Nat} (inside : client < manager.pipelines.length) (plugin : Nat)
        : after.added client plugin = manager.added client plugin := by
      simp only [PluginManager.added, after, List.getElem?_append_left inside]
    have new (plugin : Nat)
        : after.added manager.pipelines.length plugin
          = if plugin ∈ manager.getInstalled then manager.middlewareOf plugin else [] := by
      have distinct : manager.getInstalled.Nodup := applied.distinct.filter _
      simp only [PluginManager.added, after, List.getElem?_concat_length, Option.getD_some]
      exact names_flatMap distinct manager.middlewareOf plugin
    have outside {client : Nat} (beyond : manager.pipelines.length < client) (plugin : Nat)
        : after.added client plugin = [] := by
      have none : after.pipelines[client]? = none := List.getElem?_eq_none_iff.mpr (by omega)
      simp [PluginManager.added, none]
    show WellApplied after
    refine ⟨applied.distinct, applied.below, fun client inside => ?_, fun client plugin => ?_,
      fun client inside plugin installed some => ?_⟩
    · rcases Nat.lt_or_eq_of_le (Nat.lt_succ_iff.mp (length ▸ inside)) with isOld | rfl
      · exact (applied.known client isOld).imp_left (List.mem_append_left _)
      · exact .inl (List.mem_append_right _ (List.mem_singleton_self _))
    · rcases Nat.lt_trichotomy client manager.pipelines.length with isOld | rfl | beyond
      · rw [old isOld]
        exact applied.applied client plugin
      · rw [new]
        split
        · rename_i installed
          exact .inr ⟨rfl, installed⟩
        · exact .inl rfl
      · exact .inl (outside beyond plugin)
    · rcases Nat.lt_or_eq_of_le (Nat.lt_succ_iff.mp (length ▸ inside)) with isOld | rfl
      · rw [old isOld]
        refine (applied.complete client isOld plugin installed some).imp_right fun waits => ?_
        exact waits.imp_left (List.mem_append_left _)
      · exact .inr (.inl (List.mem_append_right _ (List.mem_singleton_self _)))

/-- `applyToClient` covers all plugins that are installed, and `install` finds the client from now
on.
-/
theorem WellApplied.applyToClient (applied : WellApplied manager)
    (notRunning : manager.running = none) (client : Nat)
    : WellApplied (manager.applyToClient client) := by
  have stillThere (target : Nat) (isThere : ∃ entry ∈ manager.clients.entries, entry.key = target)
      : ∃ entry ∈ (manager.clients.set client ()).entries, entry.key = target := by
    obtain ⟨entry, member, rfl⟩ := isThere
    obtain ⟨kept, isKept, -, sameKey⟩ := LiveMap.exists_mem_set member client ()
    exact ⟨kept, isKept, sameKey⟩
  have stillCovers {application : Application} {plugin target : Nat}
      (covers : application.covers manager.clients plugin target)
      : application.covers (manager.clients.set client ()) plugin target := by
    obtain ⟨pending, loop⟩ := application
    refine covers.imp_right fun later => ?_
    cases loop with
    | plugins served rest => exact later
    | clients other cursor =>
        obtain ⟨same, entry, member, isKey, notPassed⟩ := later
        obtain ⟨kept, isKept, sameStamp, sameKey⟩ := LiveMap.exists_mem_set member client ()
        exact ⟨same, kept, isKept, sameKey.trans isKey, sameStamp ▸ notPassed⟩
  refine ⟨applied.distinct, applied.below, fun target inside => ?_, applied.applied,
    fun target inside plugin installed some => ?_⟩
  · by_cases same : target = client
    · obtain ⟨entry, member, isKey, -⟩ := LiveMap.mem_set_self manager.clients client ()
      exact .inr ⟨entry, member, isKey.trans same.symm⟩
    · rcases applied.known target inside with waits | isThere
      · exact .inl ((List.mem_erase_of_ne same).mpr waits)
      · exact .inr (stillThere target isThere)
  · by_cases same : target = client
    · exact .inr (.inr ⟨⟨none, .plugins client manager.getInstalled⟩, .inl rfl,
        .inr ⟨same.symm, installed⟩⟩)
    · rcases applied.complete target inside plugin installed some with all | waits | owed
      · exact .inl all
      · exact .inr (.inl ((List.mem_erase_of_ne same).mpr waits))
      · obtain ⟨application, isRunning | waiting, covers⟩ := owed
        · rw [notRunning] at isRunning
          cases isRunning
        · exact .inr (.inr ⟨application, .inr waiting, stillCovers covers⟩)

/-- `install` calls the hook first, if there is one. -/
theorem WellApplied.install (applied : WellApplied manager) (notRunning : manager.running = none)
    (plugin : Nat)
    : WellApplied (manager.install plugin) := by
  unfold PluginManager.install
  split
  · exact applied
  · split
    · exact applied.addTask (.onInstall plugin) manager.unregistering
    · exact applied.finishInstall notRunning plugin

/-- `uninstall` takes effect at once if there is no hook. -/
theorem WellApplied.uninstall (applied : WellApplied manager) {plugin : Nat}
    (nowhere
      : manager.has PluginConfig.hasOnUninstall plugin = false → manager.isNowhere plugin)
    : WellApplied (manager.uninstall plugin) := by
  unfold PluginManager.uninstall
  split
  · exact applied
  · split
    · exact applied.addTask (.onUninstall plugin) manager.unregistering
    · rename_i noHook
      exact applied.markUninstalled (nowhere (Bool.not_eq_true _ ▸ noHook))

/-- `unregister` deletes the plugin, at once or when the hook has been called. -/
theorem WellApplied.unregister (applied : WellApplied manager) {id : String} {plugin : Nat}
    (registered : manager.plugins.get id = some plugin)
    (nowhere
      : manager.isInstalled plugin && manager.has PluginConfig.hasOnUninstall plugin = true
        ∨ manager.isNowhere plugin)
    : WellApplied (manager.unregister id plugin) := by
  have onlyThis (isNowhere : manager.isNowhere plugin)
      : ∀ other ∈ manager.plugins.get id, manager.isNowhere other := by
    intro other isThere
    obtain rfl := Option.some.inj (registered.symm.trans isThere)
    exact isNowhere
  unfold PluginManager.unregister PluginManager.uninstall
  cases installed : manager.isInstalled plugin with
  | false =>
      have isNowhere : manager.isNowhere plugin := by simpa [installed] using nowhere
      exact applied.delete id manager.unregistering (onlyThis isNowhere)
  | true =>
      cases hook : manager.has PluginConfig.hasOnUninstall plugin with
      | true => exact applied.addTask (.onUninstall plugin) (id :: manager.unregistering)
      | false =>
          have isNowhere : manager.isNowhere plugin := by simpa [installed, hook] using nowhere
          exact (applied.markUninstalled isNowhere).delete id manager.unregistering
            (onlyThis isNowhere)

end Axionvera.Plugins
