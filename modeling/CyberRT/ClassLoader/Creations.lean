import CyberRT.ClassLoader.LiveObjects

namespace CyberRT.ClassLoader

namespace Manager

variable {manager next : Manager} {id : Nat} {loader : Loader}

/-- The map has a loader under every path, and each loader has loaded its library once. -/
structure Plain (manager : Manager) : Prop where
  full : ∀ path ∈ manager.paths, (manager.loaderAt path).isSome
  once : ∀ id loader, manager.loaders id = some loader → loader.loadlibRefCount = 1

theorem mem_subscript_cases {path other : String} (member : other ∈ (manager.subscript path).paths) :
    other = path ∨ other ∈ manager.paths := by
  unfold subscript at member
  dsimp only at member
  split at member
  · exact Or.inr member
  · exact (List.mem_orderedInsert _).mp member

theorem Plain.loadLibrary (plain : manager.Plain) (path : String) (dlopen : Option (List Registration)) :
    (manager.loadLibrary path dlopen).Plain := by
  unfold Manager.loadLibrary
  split
  · exact plain
  constructor
  · intro other member
    show (Function.update manager.loaderAt path (some manager.made) other).isSome
    by_cases here : other = path
    · rw [here, Function.update_self]
      rfl
    · rw [Function.update_of_ne here]
      exact plain.full other ((mem_subscript_cases member).resolve_left here)
  · intro id loader there
    change Function.update manager.loaders manager.made (some { libraryPath := path, loadlibRefCount := 0 + 1 }) id =
      some loader at there
    by_cases own : id = manager.made
    · rw [own, Function.update_self] at there
      exact Option.some.inj there ▸ rfl
    · rw [Function.update_of_ne own] at there
      exact plain.once id loader there

theorem loadLibrary_objects {path : String} {dlopen : Option (List Registration)} :
    (manager.loadLibrary path dlopen).objects = manager.objects := by
  unfold Manager.loadLibrary
  split <;> rfl

/-- The change of an object count. -/
theorem Plain.recount (plain : manager.Plain) (here : manager.loaders id = some loader) (count : Int)
    (objects : List ClassObj) :
    { manager.setLoader id (some { loader with classobjRefCount := count }) with objects := objects }.Plain := by
  refine ⟨plain.full, fun other found there => ?_⟩
  rcases setLoader_cases there with ⟨-, rfl⟩ | ⟨-, before⟩
  · exact plain.once id loader here
  · exact plain.once other found before

/-- A class is valid for a loader whose library is open, so that an object is made without loading it again. -/
theorem Sound.loaderCreate_eq (sound : manager.Sound) (here : manager.loaders id = some loader)
    {typeName className : String} (valid : manager.isClassValid id typeName className = true)
    (dlopen : Option (List Registration)) :
    manager.loaderCreate id loader typeName className dlopen = manager ∨
      manager.loaderCreate id loader typeName className dlopen =
        { manager.setLoader id (some { loader with classobjRefCount := loader.classobjRefCount + 1 }) with
          objects := manager.objects ++ [⟨id, typeName, className⟩] } := by
  obtain ⟨factory, member, owned⟩ := List.any_eq_true.mp valid
  have holds := (sound.consistent.owners factory member id).mp (of_decide_eq_true owned).2.2
  obtain ⟨again, there, path⟩ := sound.held _ _ holds
  obtain rfl := Option.some.inj (here.symm.trans there)
  have opened : manager.libraries.isLibraryLoaded loader.libraryPath id = true := by
    rw [Libraries.isLibraryLoaded_eq, path]
    exact decide_eq_true (sound.consistent.staysOpen _ _ holds)
  unfold Manager.loaderCreate
  rw [if_pos opened]
  dsimp only
  rw [here]
  split
  · rename_i found again
    split
    · exact Or.inr (by cases again; rfl)
    · exact Or.inl rfl
  · exact Or.inl rfl

/-- `CreateClassObj(class_name)` where no pointer is null. -/
theorem Sound.createFirst_eq (sound : manager.Sound) (typeName className : String) (dlopen : Option (List Registration))
    (loaders : List (Option Nat)) (mapped : ∀ id, some id ∈ loaders → ∃ loader, manager.loaders id = some loader)
    (full : none ∉ loaders) :
    manager.createFirst typeName className dlopen loaders = some manager ∨
      ∃ id loader, manager.loaders id = some loader ∧ manager.createFirst typeName className dlopen loaders =
        some { manager.setLoader id (some { loader with classobjRefCount := loader.classobjRefCount + 1 }) with
          objects := manager.objects ++ [⟨id, typeName, className⟩] } := by
  induction loaders with
  | nil => exact Or.inl rfl
  | cons head rest ih =>
    cases head with
    | none => exact absurd List.mem_cons_self full
    | some id =>
      unfold Manager.createFirst
      split
      · rename_i valid
        obtain ⟨loader, here⟩ := mapped id List.mem_cons_self
        rw [here, Option.map_some]
        rcases sound.loaderCreate_eq here valid dlopen with same | made
        · exact Or.inl (by rw [same])
        · exact Or.inr ⟨id, loader, here, by rw [made]⟩
      · exact ih (fun id member => mapped id (List.mem_cons_of_mem _ member)) fun member =>
          full (List.mem_cons_of_mem _ member)

/-- The deletion of an object that is alive. -/
theorem Sound.deleteObj_eq (sound : manager.Sound) {index : Nat} {object : ClassObj}
    (found : manager.objects[index]? = some object) : ∃ loader, manager.loaders object.loader = some loader ∧
      manager.deleteObj index = some
        { manager.setLoader object.loader (some { loader with classobjRefCount := loader.classobjRefCount - 1 }) with
          objects := manager.objects.eraseIdx index } := by
  obtain ⟨loader, here, -⟩ := sound.objects object (List.mem_of_getElem? found)
  unfold Manager.deleteObj
  rw [found]
  dsimp only
  rw [here]
  exact ⟨loader, rfl, rfl⟩

theorem Plain.no_null (plain : manager.Plain) : none ∉ manager.getAllValidClassLoaders := by
  intro member
  obtain ⟨path, known, null⟩ := List.mem_map.mp member
  have full := plain.full path known
  rw [null] at full
  cases full

/-- `CreateClassObj(class_name)` makes one object or none. -/
theorem Sound.createClassObj (sound : manager.Sound) (plain : manager.Plain) (typeName className : String)
    (dlopen : Option (List Registration)) : ∃ next,
    manager.step (.createClassObj typeName className dlopen) = some next ∧ next.Sound ∧ next.Plain ∧
      (next.objects = manager.objects ∨ ∃ id, next.objects = manager.objects ++ [⟨id, typeName, className⟩]) := by
  have mapped : ∀ id, some id ∈ manager.getAllValidClassLoaders → ∃ loader, manager.loaders id = some loader := by
    intro id member
    obtain ⟨path, -, there⟩ := List.mem_map.mp member
    obtain ⟨loader, here, -⟩ := sound.mapped path id there
    exact ⟨loader, here⟩
  rcases sound.createFirst_eq typeName className dlopen _ mapped plain.no_null with same | ⟨id, loader, here, made⟩
  · exact ⟨manager, same, sound, plain, Or.inl rfl⟩
  · exact ⟨_, made, sound.step (show manager.step (.createClassObj typeName className dlopen) = some _ from made), plain.recount here _ _,
      Or.inr ⟨id, rfl⟩⟩

theorem Sound.deletes (sound : manager.Sound) (plain : manager.Plain) {index : Nat} {object : ClassObj}
    (found : manager.objects[index]? = some object) : ∃ next, manager.deleteObj index = some next ∧ next.Sound ∧
      next.Plain ∧ next.loaderAt = manager.loaderAt ∧ next.objects = manager.objects.eraseIdx index := by
  obtain ⟨loader, here, deleted⟩ := sound.deleteObj_eq found
  exact ⟨_, deleted, sound.deleteObj deleted, plain.recount here _ _, rfl, rfl⟩

theorem Sound.unloadLibrary_frame (sound : manager.Sound) {path : String}
    (unloaded : manager.unloadLibrary path = some next) : next.objects = manager.objects ∧
      ∀ other id, next.loaderAt other = some id → manager.loaderAt other = some id := by
  by_cases valid : manager.isLibraryValid path = true
  · obtain ⟨id, there⟩ := (sound.isLibraryValid_iff path).mp valid
    obtain ⟨loader, here, rfl⟩ := sound.mapped path id there
    rw [sound.unloadLibrary_eq here] at unloaded
    obtain rfl := Option.some.inj unloaded
    split
    · exact ⟨rfl, fun _ _ there => there⟩
    · split
      · refine ⟨rfl, fun other number there => ?_⟩
        change Function.update manager.loaderAt loader.libraryPath none other = some number at there
        by_cases same : other = loader.libraryPath
        · rw [same, Function.update_self] at there
          cases there
        · rwa [Function.update_of_ne same] at there
      · exact ⟨rfl, fun _ _ there => there⟩
  · rw [Manager.unloadLibrary, if_neg valid] at unloaded
    obtain rfl := Option.some.inj unloaded
    exact ⟨rfl, fun _ _ there => there⟩

theorem Sound.unloadAll_frame (sound : manager.Sound) {paths : List String}
    (unloaded : paths.foldlM Manager.unloadLibrary manager = some next) : next.objects = manager.objects ∧
      ∀ other id, next.loaderAt other = some id → manager.loaderAt other = some id := by
  induction paths generalizing manager with
  | nil =>
    obtain rfl := Option.some.inj unloaded
    exact ⟨rfl, fun _ _ there => there⟩
  | cons path paths ih =>
    obtain ⟨middle, first, kept⟩ := sound.unloadLibrary path
    rw [List.foldlM_cons, first] at unloaded
    obtain ⟨objects, loaders⟩ := ih kept unloaded
    obtain ⟨objects', loaders'⟩ := sound.unloadLibrary_frame first
    exact ⟨objects.trans objects', fun other id there => loaders' other id (loaders other id there)⟩

theorem Sound.outlasts_iff (sound : manager.Sound) (plain : manager.Plain) (path : String) :
    manager.Outlasts path ↔ ∃ object ∈ manager.objects, manager.loaderAt path = some object.loader := by
  constructor
  · rintro ⟨id, loader, there, here, used | again⟩
    · rw [sound.counted id loader here] at used
      obtain ⟨object, member, own⟩ := List.countP_pos_iff.mp (Int.natCast_pos.mp used)
      exact ⟨object, member, there.trans (congrArg some (of_decide_eq_true own).symm)⟩
    · have once := plain.once id loader here
      omega
  · rintro ⟨object, member, there⟩
    obtain ⟨loader, here, -⟩ := sound.mapped path object.loader there
    refine ⟨object.loader, loader, there, here, Or.inl ?_⟩
    rw [sound.counted _ loader here]
    exact Int.natCast_pos.mpr (List.countP_pos_iff.mpr ⟨object, member, decide_eq_true rfl⟩)

/-- A library is open behind `UnloadAllLibrary` if one of its objects is alive, and only then. -/
theorem Sound.opened_unloadAll (sound : manager.Sound) (plain : manager.Plain) : ∃ next,
    manager.unloadAllLibrary = some next ∧ next.objects = manager.objects ∧
      ∀ path, path ∈ next.libraries.opened ↔ ∃ object ∈ manager.objects, manager.loaderAt path = some object.loader := by
  obtain ⟨next, unloaded, kept, -, opened⟩ := sound.unloadAllLibrary
  obtain ⟨objects, loaders⟩ := sound.unloadAll_frame unloaded
  refine ⟨next, unloaded, objects, fun path => ⟨fun member => ?_, ?_⟩⟩
  · exact (sound.outlasts_iff plain path).mp (opened path member)
  · rintro ⟨object, member, there⟩
    obtain ⟨loader, here, holds⟩ := kept.objects object (objects ▸ member)
    have placed := loaders _ _ (kept.placed object.loader loader here)
    obtain ⟨before, found, path'⟩ := sound.mapped path object.loader there
    obtain ⟨before', found', path''⟩ := sound.mapped loader.libraryPath object.loader placed
    obtain rfl := Option.some.inj (found.symm.trans found')
    rw [← path', path'']
    exact kept.consistent.staysOpen _ _ holds

end Manager

end CyberRT.ClassLoader
