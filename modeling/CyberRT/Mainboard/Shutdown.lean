import CyberRT.ClassLoader.Creations
import CyberRT.Mainboard.ModuleController

namespace CyberRT.Mainboard

open ClassLoader

section Loops

variable {State Item Output : Type} {Holds : State → Prop} {outputs : State → List Output}

/-- A call that is defined and keeps `Holds`. It adds what it was asked for to the outputs, and if it answers `false` the
    first part of it. -/
def Produces (Holds : State → Prop) (outputs : State → List Output) (state : State) (asked : List Output)
    (result : Option (State × Bool)) : Prop :=
  ∃ next goesOn part, result = some (next, goesOn) ∧ Holds next ∧ outputs next = outputs state ++ part ∧
    part <+: asked ∧ (goesOn = true → part = asked)

theorem loop_produces {body : State → Item → Option (State × Bool)} {asked : Item → List Output}
    (each : ∀ state item, Holds state → Produces Holds outputs state (asked item) (body state item)) (items : List Item)
    {state : State} (holds : Holds state) :
    Produces Holds outputs state (items.flatMap asked) (loop body state items) := by
  induction items generalizing state with
  | nil => exact ⟨state, true, [], rfl, holds, (List.append_nil _).symm, List.prefix_refl _, fun _ => rfl⟩
  | cons item items ih =>
    obtain ⟨next, goesOn, part, called, kept, made, within, all⟩ := each state item holds
    unfold loop
    rw [called, Option.bind_some, List.flatMap_cons]
    cases goesOn with
    | false => exact ⟨next, false, part, rfl, kept, made, within.trans (List.prefix_append _ _), nofun⟩
    | true =>
      obtain ⟨last, goesOn, rest, looped, kept, made', within', all'⟩ := ih kept
      obtain rfl := all rfl
      refine ⟨last, goesOn, asked item ++ rest, looped, kept, ?_, ?_, fun ended => ?_⟩
      · rw [made', made, List.append_assoc]
      · exact (List.prefix_append_right_inj _).mpr within'
      · rw [all' ended]

end Loops

/-- The class and the node of each component in the order of their creation. -/
def ModuleConfig.asked (moduleConfig : ModuleConfig) : List (String × String) :=
  (moduleConfig.components ++ moduleConfig.timerComponents).map fun info => (info.className, info.nodeName)

def Environment.asked (environment : Environment) (path : String) : List (String × String) :=
  ((environment.dagConfig path).getD []).flatMap ModuleConfig.asked

def Component.origin (component : Component) : String × String := (component.object.className, component.nodeName)

/-- The component is the first one of its node, which has a name. -/
def firstOfNode (components : List Component) (component : Component) : Bool :=
  component.nodeName ≠ "" ∧ components.find? (·.nodeName = component.nodeName) = some component

namespace ModuleController

variable {controller : ModuleController}

/-- The objects that are alive are the components in their order, and `GlobalData` has the first one of each node. -/
structure Alive (controller : ModuleController) : Prop where
  sound : controller.manager.Sound
  plain : controller.manager.Plain
  objects : controller.manager.objects = controller.componentList.map (·.object)
  numbers : controller.componentList.map (·.number) = List.range controller.created
  registered : ∀ component, component ∈ controller.nodeComponentMap ↔
    firstOfNode controller.componentList component = true
  running : controller.shutDown = []

/-- The classes and nodes of the components so far. -/
def origins (controller : ModuleController) : List (String × String) := controller.componentList.map Component.origin

theorem firstOfNode_iff {components : List Component} {component : Component} :
    firstOfNode components component = true ↔
      component.nodeName ≠ "" ∧ components.find? (·.nodeName = component.nodeName) = some component :=
  decide_eq_true_iff

/-- A component that joins the list is the first of its node unless an earlier one has the node. -/
theorem firstOfNode_append {components : List Component} {added component : Component} :
    firstOfNode (components ++ [added]) component = true ↔ firstOfNode components component = true ∨
      component = added ∧ added.nodeName ≠ "" ∧ ∀ earlier ∈ components, earlier.nodeName ≠ added.nodeName := by
  rw [firstOfNode_iff, firstOfNode_iff, List.find?_append]
  cases found : components.find? (·.nodeName = component.nodeName) with
  | some first =>
    have named : first.nodeName = component.nodeName := by simpa using List.find?_some found
    rw [Option.some_or]
    refine ⟨Or.inl, ?_⟩
    rintro (already | ⟨rfl, -, missing⟩)
    · exact already
    · exact absurd named (missing first (List.mem_of_find?_eq_some found))
  | none =>
    have missing : ∀ earlier ∈ components, earlier.nodeName ≠ component.nodeName := fun earlier member =>
      of_decide_eq_false (Bool.eq_false_iff.mpr (List.find?_eq_none.mp found earlier member))
    rw [Option.none_or, List.find?_singleton]
    constructor
    · rintro ⟨named, last⟩
      split at last
      · obtain rfl := Option.some.inj last
        exact Or.inr ⟨rfl, named, missing⟩
      · cases last
    · rintro (⟨-, impossible⟩ | ⟨rfl, named, -⟩)
      · cases impossible
      · exact ⟨named, if_pos (decide_eq_true rfl)⟩

theorem mem_registerComponent (registered : ∀ component, component ∈ controller.nodeComponentMap ↔
    firstOfNode controller.componentList component = true) (added component : Component) :
    component ∈ controller.registerComponent added ↔
      firstOfNode (controller.componentList ++ [added]) component = true := by
  rw [firstOfNode_append, ← registered component]
  unfold registerComponent
  by_cases named : added.nodeName = ""
  · rw [if_pos (Or.inl (String.isEmpty_iff.mpr named))]
    exact ⟨Or.inl, fun first => first.resolve_right fun ⟨_, nonempty, _⟩ => nonempty named⟩
  by_cases known : controller.nodeComponentMap.any (·.nodeName = added.nodeName) = true
  · rw [if_pos (Or.inr known)]
    refine ⟨Or.inl, fun first => first.resolve_right fun ⟨_, _, alone⟩ => ?_⟩
    obtain ⟨earlier, member, same⟩ := List.any_eq_true.mp known
    have held := (firstOfNode_iff.mp ((registered earlier).mp member)).2
    exact alone earlier (List.mem_of_find?_eq_some held) (of_decide_eq_true same)
  · have alone : ∀ earlier ∈ controller.componentList, earlier.nodeName ≠ added.nodeName := by
      intro earlier member same
      cases found : controller.componentList.find? (·.nodeName = added.nodeName) with
      | none => exact List.find?_eq_none.mp found earlier member (decide_eq_true same)
      | some first =>
        have own : first.nodeName = added.nodeName := by simpa using List.find?_some found
        have held : first ∈ controller.nodeComponentMap :=
          (registered first).mpr (firstOfNode_iff.mpr ⟨own ▸ named, own ▸ found⟩)
        exact known (List.any_eq_true.mpr ⟨first, held, decide_eq_true own⟩)
    rw [if_neg (by rintro (empty | again); exacts [named (String.isEmpty_iff.mp empty), known again]), List.mem_append,
      List.mem_singleton]
    exact or_congr_right ⟨fun same => ⟨same, named, alone⟩, fun ⟨same, _, _⟩ => same⟩

theorem Alive.loadComponent (alive : controller.Alive) (info : ComponentInfo) :
    Produces Alive origins controller [(info.className, info.nodeName)] (controller.loadComponent info) := by
  obtain ⟨manager, created, sound, plain, objects⟩ :=
    alive.sound.createClassObj alive.plain componentBase info.className none
  unfold ModuleController.loadComponent
  rw [created, Option.bind_some]
  rcases objects with same | ⟨id, added⟩
  · have missing : manager.objects[controller.manager.objects.length]? = none := by
      rw [same, List.getElem?_eq_none (le_refl _)]
    rw [missing]
    exact ⟨_, false, [], rfl, ⟨sound, plain, same.trans alive.objects, alive.numbers, alive.registered, alive.running⟩,
      (List.append_nil _).symm, List.nil_prefix, nofun⟩
  · have found : manager.objects[controller.manager.objects.length]? = some ⟨id, componentBase, info.className⟩ := by
      rw [added, List.getElem?_concat_length]
    rw [found]
    dsimp only
    split
    · refine ⟨_, true, _, rfl, ⟨sound, plain, ?_, ?_, mem_registerComponent alive.registered _, alive.running⟩, ?_,
        List.prefix_refl _, fun _ => rfl⟩
      · rw [added, alive.objects, List.map_append, List.map_singleton]
      · rw [List.map_append, alive.numbers, List.map_singleton, ← List.range_succ]
      · unfold origins
        rw [List.map_append, List.map_singleton]
        rfl
    · obtain ⟨after, deleted, sound', plain', -, left⟩ := sound.deletes plain found
      rw [deleted, Option.map_some]
      refine ⟨_, false, [], rfl, ⟨sound', plain', ?_, alive.numbers, alive.registered, alive.running⟩,
        (List.append_nil _).symm, List.nil_prefix, nofun⟩
      rw [left, added, List.eraseIdx_append_of_length_le (le_refl _), Nat.sub_self, List.eraseIdx_cons_zero,
        List.append_nil, alive.objects]

theorem Alive.loadLibrary (alive : controller.Alive) (path : String) (dlopen : Option (List ClassLoader.Registration)) :
    Alive { controller with manager := controller.manager.loadLibrary path dlopen } :=
  ⟨alive.sound.loadLibrary path dlopen, alive.plain.loadLibrary path dlopen,
    Manager.loadLibrary_objects.trans alive.objects, alive.numbers, alive.registered, alive.running⟩

theorem Alive.loadModuleConfig (alive : controller.Alive) (environment : Environment) (moduleConfig : ModuleConfig) :
    Produces Alive origins controller moduleConfig.asked (controller.loadModuleConfig environment moduleConfig) := by
  have nothing : Produces Alive origins controller moduleConfig.asked (some (controller, false)) :=
    ⟨controller, false, [], rfl, alive, (List.append_nil _).symm, List.nil_prefix, nofun⟩
  unfold ModuleController.loadModuleConfig
  dsimp only
  split
  · have looped := loop_produces (fun _ info holds => Alive.loadComponent holds info)
      (moduleConfig.components ++ moduleConfig.timerComponents)
      (alive.loadLibrary (environment.loadPath moduleConfig) (environment.dlopen (environment.loadPath moduleConfig)))
    rwa [← List.map_eq_flatMap] at looped
  · exact nothing

theorem Alive.loadModule (alive : controller.Alive) (environment : Environment) (path : String) :
    Produces Alive origins controller (environment.asked path) (controller.loadModule environment path) := by
  unfold ModuleController.loadModule Environment.asked
  cases environment.dagConfig path with
  | none => exact ⟨controller, false, [], rfl, alive, (List.append_nil _).symm, List.nil_prefix, nofun⟩
  | some dagConfig => exact loop_produces (fun _ moduleConfig holds => Alive.loadModuleConfig holds environment moduleConfig) dagConfig alive

theorem start_alive (componentNums : Nat) :
    Alive { ({} : ModuleController) with componentNums := componentNums } :=
  ⟨Manager.start_sound, ⟨nofun, nofun⟩, rfl, rfl, fun _ => by simp [firstOfNode], rfl⟩

/-- The list is cleared: of its components the objects stay alive that `GlobalData` has. -/
theorem released (controller : ModuleController) {components : List Component} {others : List ClassObj} (sound : controller.manager.Sound)
    (plain : controller.manager.Plain)
    (alive : controller.manager.objects.Perm (components.map (·.object) ++ others)) : ∃ manager : Manager,
    components.foldlM release controller = some { controller with manager := manager } ∧ manager.Sound ∧
      manager.Plain ∧ manager.loaderAt = controller.manager.loaderAt ∧
      manager.objects.Perm ((components.filter (· ∈ controller.nodeComponentMap)).map (·.object) ++ others) := by
  induction components generalizing controller others with
  | nil => exact ⟨controller.manager, rfl, sound, plain, rfl, alive⟩
  | cons component components ih =>
    rw [List.foldlM_cons]
    unfold release
    rw [List.map_cons, List.cons_append] at alive
    split
    · rename_i kept
      obtain ⟨manager, cleared, sound', plain', loaders, objects⟩ :=
        ih controller sound plain (alive.trans List.perm_middle.symm)
      refine ⟨manager, cleared, sound', plain', loaders, objects.trans ?_⟩
      rw [List.filter_cons, if_pos (decide_eq_true kept), List.map_cons, List.cons_append]
      exact List.perm_middle
    · rename_i dropped
      have member : component.object ∈ controller.manager.objects := alive.mem_iff.mpr List.mem_cons_self
      have found : controller.manager.objects[controller.manager.objects.idxOf component.object]? =
          some component.object := List.getElem?_idxOf member
      obtain ⟨middle, deleted, sound', plain', same, left⟩ := sound.deletes plain found
      have objects : middle.objects.Perm (components.map (·.object) ++ others) := by
        rw [left, List.eraseIdx_idxOf_eq_erase]
        exact (alive.erase component.object).trans (List.Perm.of_eq (List.erase_cons_head ..))
      obtain ⟨manager, cleared, sound', plain', loaders, objects⟩ :=
        ih { controller with manager := middle } sound' plain' objects
      rw [deleted, Option.map_some]
      refine ⟨manager, cleared, sound', plain', loaders.trans same, ?_⟩
      rwa [List.filter_cons, if_neg fun kept => dropped (of_decide_eq_true kept)]

/-- `mainboard` may stop at any argument and always calls `Clear`: no step has a null pointer or a deleted loader. The
    components are those of the configuration, or its first ones if `Init` fails. Each is shut down once, in the order of
    their creation. The objects that stay alive are the first of each named node, and the libraries that stay open are
    those that have made one of them. -/
theorem main_releases (environment : Environment) (dagConfList : List String) : ∃ loaded succeeded cleared,
    ({} : ModuleController).loadAll environment dagConfList = some (loaded, succeeded) ∧ loaded.clear = some cleared ∧
      loaded.origins <+: (dagConfList.map environment.modulePath).flatMap environment.asked ∧
      (succeeded = true → loaded.origins = (dagConfList.map environment.modulePath).flatMap environment.asked) ∧
      cleared.shutDown = loaded.componentList ∧ (loaded.componentList.map (·.number)).Nodup ∧
      cleared.manager.objects.Perm
        ((loaded.componentList.filter (firstOfNode loaded.componentList)).map (·.object)) ∧
      ∀ path, path ∈ cleared.manager.libraries.opened ↔ ∃ component ∈ loaded.componentList,
        firstOfNode loaded.componentList component = true ∧
          loaded.manager.loaderAt path = some component.object.loader := by
  obtain ⟨loaded, succeeded, part, called, alive, made, within, all⟩ :=
    loop_produces (fun _ path holds => Alive.loadModule holds environment path)
      (dagConfList.map environment.modulePath)
      (start_alive (totalComponentNums environment (dagConfList.map environment.modulePath)))
  obtain rfl : loaded.origins = part := made.trans (List.nil_append _)
  have exact : loaded.manager.objects.Perm (loaded.componentList.map (·.object) ++ []) := by
    rw [List.append_nil, alive.objects]
  obtain ⟨middle, freed, sound, plain, loaders, objects⟩ := released
    { loaded with shutDown := loaded.shutDown ++ loaded.componentList } alive.sound alive.plain exact
  obtain ⟨manager, unloaded, same, opened⟩ := sound.opened_unloadAll plain
  have kept : loaded.componentList.filter (· ∈ loaded.nodeComponentMap) =
      loaded.componentList.filter (firstOfNode loaded.componentList) :=
    List.filter_congr fun component _ => Bool.eq_iff_iff.mpr (decide_eq_true_iff.trans (alive.registered component))
  rw [kept, List.append_nil] at objects
  refine ⟨loaded, succeeded, { loaded with
    manager := manager
    componentList := []
    shutDown := loaded.shutDown ++ loaded.componentList }, called, ?_, within, all, ?_, ?_, ?_, fun path => ?_⟩
  · unfold clear
    rw [freed, Option.bind_some, unloaded, Option.map_some]
  · rw [alive.running, List.nil_append]
  · rw [alive.numbers]
    exact List.nodup_range
  · rwa [same]
  · rw [opened path, loaders]
    constructor
    · rintro ⟨object, member, there⟩
      obtain ⟨component, first, rfl⟩ := List.mem_map.mp (objects.mem_iff.mp member)
      exact ⟨component, (List.mem_filter.mp first).1, (List.mem_filter.mp first).2, there⟩
    · rintro ⟨component, listed, first, there⟩
      exact ⟨component.object, objects.mem_iff.mpr (List.mem_map_of_mem (List.mem_filter.mpr ⟨listed, first⟩)), there⟩

end ModuleController

end CyberRT.Mainboard
