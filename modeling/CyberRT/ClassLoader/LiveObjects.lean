import Mathlib.Data.List.Perm.Basic
import CyberRT.ClassLoader.Manager

namespace CyberRT.ClassLoader

open Execution

namespace Manager

variable {manager next : Manager} {id : Nat} {loader : Loader}

/-- The loaders that exist are those of the map, each under its own path, and only they hold libraries. A loader counts
    the objects that it has made, and holds its library while there are any. -/
structure Sound (manager : Manager) : Prop where
  consistent : manager.libraries.Consistent
  mapped : ∀ path id, manager.loaderAt path = some id →
    ∃ loader, manager.loaders id = some loader ∧ loader.libraryPath = path
  placed : ∀ id loader, manager.loaders id = some loader → manager.loaderAt loader.libraryPath = some id
  keyed : ∀ path id, manager.loaderAt path = some id → path ∈ manager.paths
  held : ∀ path id, (path, id) ∈ manager.libraries.held →
    ∃ loader, manager.loaders id = some loader ∧ loader.libraryPath = path
  loaded : ∀ id loader, manager.loaders id = some loader → 0 < loader.loadlibRefCount
  counted : ∀ id loader, manager.loaders id = some loader →
    loader.classobjRefCount = (manager.objects.countP fun object => object.loader = id : Nat)
  objects : ∀ object ∈ manager.objects, ∃ loader, manager.loaders object.loader = some loader ∧
    (loader.libraryPath, object.loader) ∈ manager.libraries.held
  beyond : ∀ id, manager.made ≤ id → manager.loaders id = none
  distinct : manager.paths.Nodup

theorem start_sound : ({} : Manager).Sound where
  consistent := Libraries.consistent_start
  mapped := nofun
  placed := nofun
  keyed := nofun
  held := nofun
  loaded := nofun
  counted := nofun
  objects := nofun
  beyond _ _ := rfl
  distinct := List.nodup_nil

theorem mem_held_loadLibrary {libraries : Libraries Nat} {path : String} {dlopen : Option (List Registration)}
    {entry : String × Nat} (member : entry ∈ (libraries.loadLibrary path id dlopen).2.held) :
    entry = (path, id) ∨ entry ∈ libraries.held := by
  unfold Libraries.loadLibrary at member
  split at member
  · exact List.mem_cons.mp member
  · cases dlopen with
    | none => exact .inr member
    | some registrations => exact List.mem_cons.mp member

theorem held_loadLibrary {libraries : Libraries Nat} {path : String} {dlopen : Option (List Registration)}
    {entry : String × Nat} (member : entry ∈ libraries.held) :
    entry ∈ (libraries.loadLibrary path id dlopen).2.held := by
  unfold Libraries.loadLibrary
  split
  · exact List.mem_cons_of_mem _ member
  · cases dlopen with
    | none => exact member
    | some registrations => exact List.mem_cons_of_mem _ member

theorem setLoader_loaders (change : Option Loader) :
    (manager.setLoader id change).loaders = Function.update manager.loaders id change := rfl

/-- A change of one loader that keeps its path. -/
theorem setLoader_cases {same : Loader} {other : Nat} {found : Loader}
    (there : (manager.setLoader id (some same)).loaders other = some found) :
    (other = id ∧ found = same) ∨ (other ≠ id ∧ manager.loaders other = some found) := by
  by_cases here : other = id
  · rw [here, setLoader_loaders, Function.update_self] at there
    exact .inl ⟨here, (Option.some.inj there).symm⟩
  · rw [setLoader_loaders, Function.update_of_ne here] at there
    exact .inr ⟨here, there⟩

theorem setLoader_exists {same : Loader} (here : manager.loaders id = some loader)
    (path : same.libraryPath = loader.libraryPath) {other : Nat} {found : Loader}
    (there : manager.loaders other = some found) :
    ∃ after, (manager.setLoader id (some same)).loaders other = some after ∧ after.libraryPath = found.libraryPath := by
  by_cases own : other = id
  · subst own
    rw [there] at here
    obtain rfl := Option.some.inj here
    exact ⟨same, Function.update_self .., path⟩
  · exact ⟨found, (Function.update_of_ne own ..).trans there, rfl⟩

/-- A loader that exists changes its counts, and the libraries and objects change with it. -/
theorem Sound.change (sound : manager.Sound) (here : manager.loaders id = some loader) (same : Loader)
    (path : same.libraryPath = loader.libraryPath) {libraries : Libraries Nat} {objects : List ClassObj}
    (consistent : libraries.Consistent)
    (held : ∀ entry ∈ libraries.held, entry = (loader.libraryPath, id) ∨ entry ∈ manager.libraries.held)
    (loaded : 0 < same.loadlibRefCount)
    (counted : same.classobjRefCount = (objects.countP fun object => object.loader = id : Nat))
    (others : ∀ other, other ≠ id → (objects.countP fun object => object.loader = other) =
      manager.objects.countP fun object => object.loader = other)
    (live : ∀ object ∈ objects, ∃ loader, manager.loaders object.loader = some loader ∧
      (loader.libraryPath, object.loader) ∈ libraries.held) :
    { manager.setLoader id (some same) with libraries := libraries, objects := objects }.Sound where
  consistent := consistent
  mapped other number there := by
    obtain ⟨found, exists_, rfl⟩ := sound.mapped other number there
    exact setLoader_exists here path exists_
  placed number found there := by
    rcases setLoader_cases there with ⟨rfl, rfl⟩ | ⟨_, before⟩
    · rw [path]
      exact sound.placed number loader here
    · exact sound.placed number found before
  keyed := sound.keyed
  held other number member := by
    rcases held _ member with entry | before
    · obtain ⟨rfl, rfl⟩ := Prod.mk.inj entry
      exact setLoader_exists here path here
    · obtain ⟨found, exists_, rfl⟩ := sound.held other number before
      exact setLoader_exists here path exists_
  loaded number found there := by
    rcases setLoader_cases there with ⟨_, rfl⟩ | ⟨_, before⟩
    · exact loaded
    · exact sound.loaded number found before
  counted number found there := by
    rcases setLoader_cases there with ⟨rfl, rfl⟩ | ⟨apart, before⟩
    · exact counted
    · rw [sound.counted number found before]
      exact congrArg Int.ofNat (others number apart).symm
  objects object member := by
    obtain ⟨found, exists_, holds⟩ := live object member
    obtain ⟨after, there, same_path⟩ := setLoader_exists here path exists_
    exact ⟨after, there, same_path ▸ holds⟩
  beyond number large := by
    have apart : number ≠ id := by
      rintro rfl
      rw [sound.beyond number large] at here
      cases here
    exact (Function.update_of_ne apart ..).trans (sound.beyond number large)
  distinct := sound.distinct

theorem Sound.loaderLoad (sound : manager.Sound) (here : manager.loaders id = some loader)
    (dlopen : Option (List Registration)) : (manager.loaderLoad id loader dlopen).Sound := by
  have consistent : (manager.libraries.loadLibrary loader.libraryPath id dlopen).2.Consistent :=
    sound.consistent.step (show manager.libraries.UnloadsAlone (.load loader.libraryPath id dlopen) from trivial) rfl
  have loaded := sound.loaded id loader here
  refine sound.change here { loader with loadlibRefCount := loader.loadlibRefCount + 1 } rfl consistent
    (fun _ => mem_held_loadLibrary) ?_ (sound.counted id loader here) (fun _ _ => rfl) fun object member => ?_
  · show 0 < loader.loadlibRefCount + 1
    omega
  · obtain ⟨found, exists_, holds⟩ := sound.objects object member
    exact ⟨found, exists_, held_loadLibrary holds⟩

theorem mem_subscript {path other : String} (member : other ∈ manager.paths) : other ∈ (manager.subscript path).paths := by
  unfold subscript
  dsimp only
  split
  · exact member
  · exact (List.perm_orderedInsert _ _ _).mem_iff.mpr (List.mem_cons_of_mem _ member)

theorem mem_subscript_self {path : String} : path ∈ (manager.subscript path).paths := by
  unfold subscript
  dsimp only
  split
  · assumption
  · exact (List.perm_orderedInsert _ _ _).mem_iff.mpr List.mem_cons_self

theorem nodup_subscript (distinct : manager.paths.Nodup) (path : String) : (manager.subscript path).paths.Nodup := by
  unfold subscript
  dsimp only
  split
  · exact distinct
  · rename_i absent
    exact (List.perm_orderedInsert _ _ _).nodup_iff.mpr (List.nodup_cons.mpr ⟨absent, distinct⟩)

theorem Sound.subscript (sound : manager.Sound) (path : String) : (manager.subscript path).Sound :=
  { sound with
    keyed := fun other id there => mem_subscript (sound.keyed other id there)
    distinct := nodup_subscript sound.distinct path }

theorem Sound.isLibraryValid_iff (sound : manager.Sound) (path : String) :
    manager.isLibraryValid path = true ↔ ∃ id, manager.loaderAt path = some id := by
  have valid : manager.isLibraryValid path = true ↔ path ∈ manager.getAllValidLibPath := decide_eq_true_iff
  rw [valid, getAllValidLibPath, List.mem_filter, Option.isSome_iff_exists]
  exact ⟨And.right, fun ⟨id, there⟩ => ⟨sound.keyed path id there, id, there⟩⟩

/-- A loader that is new holds at most the library of its path, and no objects. -/
theorem Sound.loadLibrary (sound : manager.Sound) (path : String) (dlopen : Option (List Registration)) :
    (manager.loadLibrary path dlopen).Sound := by
  unfold Manager.loadLibrary
  split
  · exact sound
  rename_i invalid
  rw [sound.isLibraryValid_iff] at invalid
  have none_there : manager.loaderAt path = none := by
    cases there : manager.loaderAt path with
    | none => rfl
    | some id => exact absurd ⟨id, there⟩ invalid
  have fresh : manager.loaders manager.made = none := sound.beyond _ (le_refl _)
  have older : ∀ {other : Nat} {found : Loader}, manager.loaders other = some found → other ≠ manager.made := by
    rintro other found there rfl
    rw [fresh] at there
    cases there
  let made : Loader := { libraryPath := path, loadlibRefCount := 0 + 1 }
  have old : ∀ {other : Nat} {found : Loader}, manager.loaders other = some found →
      Function.update manager.loaders manager.made (some made) other = some found := by
    intro other found there
    rw [Function.update_of_ne (older there)]
    exact there
  have cases_of : ∀ {other : Nat} {found : Loader},
      Function.update manager.loaders manager.made (some made) other = some found →
      (other = manager.made ∧ found = made) ∨ manager.loaders other = some found := by
    intro other found there
    by_cases own : other = manager.made
    · rw [own, Function.update_self] at there
      exact .inl ⟨own, (Option.some.inj there).symm⟩
    · rw [Function.update_of_ne own] at there
      exact .inr there
  have unheld : ∀ object ∈ manager.objects, object.loader ≠ manager.made := by
    intro object member
    obtain ⟨found, there, _⟩ := sound.objects object member
    exact older there
  refine ⟨?_, ?_, ?_, ?_, ?_, ?_, ?_, ?_, ?_, nodup_subscript sound.distinct path⟩
  · exact sound.consistent.step (show manager.libraries.UnloadsAlone (.load path manager.made dlopen) from trivial) rfl
  · intro other id there
    change Function.update manager.loaderAt path (some manager.made) other = some id at there
    by_cases here : other = path
    · rw [here, Function.update_self] at there
      obtain rfl := Option.some.inj there
      exact ⟨made, Function.update_self .., here.symm⟩
    · rw [Function.update_of_ne here] at there
      obtain ⟨found, exists_, same⟩ := sound.mapped other id there
      exact ⟨found, old exists_, same⟩
  · intro id found there
    show Function.update manager.loaderAt path (some manager.made) found.libraryPath = some id
    rcases cases_of there with ⟨rfl, rfl⟩ | before
    · exact Function.update_self ..
    · have placed := sound.placed id found before
      have elsewhere : found.libraryPath ≠ path := by
        intro same
        rw [same, none_there] at placed
        cases placed
      rw [Function.update_of_ne elsewhere]
      exact placed
  · intro other id there
    change Function.update manager.loaderAt path (some manager.made) other = some id at there
    by_cases here : other = path
    · rw [here]
      exact mem_subscript_self
    · rw [Function.update_of_ne here] at there
      exact mem_subscript (sound.keyed other id there)
  · intro other id member
    rcases mem_held_loadLibrary member with entry | before
    · obtain ⟨rfl, rfl⟩ := Prod.mk.inj entry
      exact ⟨made, Function.update_self .., rfl⟩
    · obtain ⟨found, exists_, same⟩ := sound.held other id before
      exact ⟨found, old exists_, same⟩
  · intro id found there
    rcases cases_of there with ⟨_, rfl⟩ | before
    · exact Int.zero_lt_one
    · exact sound.loaded id found before
  · intro id found there
    rcases cases_of there with ⟨rfl, rfl⟩ | before
    · have nobody : (manager.objects.countP fun object => object.loader = manager.made) = 0 := by
        rw [List.countP_eq_zero]
        intro object member
        simpa using unheld object member
      show (0 : Int) = (manager.objects.countP fun object => object.loader = manager.made : Nat)
      rw [nobody]
      rfl
    · exact sound.counted id found before
  · intro object member
    obtain ⟨found, there, holds⟩ := sound.objects object member
    exact ⟨found, old there, held_loadLibrary holds⟩
  · intro id large
    have large : manager.made + 1 ≤ id := large
    show Function.update manager.loaders manager.made (some made) id = none
    rw [Function.update_of_ne (by omega)]
    exact sound.beyond id (by omega)

/-- A loader makes objects of the classes that it owns only, which are those of a library that it holds. -/
theorem Sound.loaderCreate (sound : manager.Sound) (here : manager.loaders id = some loader)
    (typeName className : String) (dlopen : Option (List Registration)) :
    (manager.loaderCreate id loader typeName className dlopen).Sound := by
  unfold Manager.loaderCreate
  dsimp only
  set opened := if manager.libraries.isLibraryLoaded loader.libraryPath id then manager
    else manager.loaderLoad id loader dlopen with opens
  have kept : opened.Sound := by
    rw [opens]
    split
    · exact sound
    · exact sound.loaderLoad here dlopen
  split
  · rename_i factory there found exists_
    split
    · rename_i owned
      have member := List.mem_of_find?_eq_some found
      have holds := (kept.consistent.owners factory member id).mp owned
      obtain ⟨again, exists_', path⟩ := kept.held _ _ holds
      rw [exists_] at exists_'
      obtain rfl := Option.some.inj exists_'
      have counted := kept.counted id there exists_
      refine kept.change exists_ { there with classobjRefCount := there.classobjRefCount + 1 } rfl kept.consistent
        (fun _ => .inr) (kept.loaded id there exists_) ?_ ?_ ?_
      · show there.classobjRefCount + 1 = _
        rw [counted]
        simp [List.countP_append]
      · intro other apart
        simp [List.countP_append, Ne.symm apart]
      · intro object member
        rcases List.mem_append.mp member with before | new
        · exact kept.objects object before
        · rw [List.mem_singleton.mp new]
          exact ⟨there, exists_, path ▸ holds⟩
    · exact kept
  · exact kept

theorem Sound.deleteObj (sound : manager.Sound) {index : Nat} (taken : manager.deleteObj index = some next) :
    next.Sound := by
  unfold Manager.deleteObj at taken
  split at taken
  · exact Option.some.inj taken ▸ sound
  · rename_i object found
    obtain ⟨loader, here, rfl⟩ := Option.map_eq_some_iff.mp taken
    have counted := sound.counted object.loader loader here
    obtain ⟨bound, same⟩ := List.getElem?_eq_some_iff.mp found
    have perm := List.getElem_cons_eraseIdx_perm bound
    rw [same] at perm
    refine sound.change here { loader with classobjRefCount := loader.classobjRefCount - 1 } rfl sound.consistent
      (fun _ => .inr) (sound.loaded _ loader here) ?_ ?_ ?_
    · have one_less := perm.countP_eq fun other => other.loader = object.loader
      rw [List.countP_cons_of_pos (by simp)] at one_less
      show loader.classobjRefCount - 1 = _
      rw [counted, ← one_less]
      simp
    · intro other apart
      have equal := perm.countP_eq fun found => found.loader = other
      rwa [List.countP_cons_of_neg (by simpa using Ne.symm apart)] at equal
    · exact fun object member => sound.objects object (List.mem_of_mem_eraseIdx member)

/-- No other loader holds the library of a loader. -/
theorem Sound.unloadsAlone (sound : manager.Sound) (here : manager.loaders id = some loader) :
    manager.libraries.UnloadsAlone (.unload loader.libraryPath id) := by
  intro _ _ other holds
  obtain ⟨found, there, path⟩ := sound.held _ other holds
  have placed := sound.placed other found there
  rw [path, sound.placed id loader here] at placed
  exact (Option.some.inj placed).symm

/-- The manager behind a `loaderUnload` that has let go of the library and deleted the loader. -/
def closed (manager : Manager) (path : String) (id : Nat) : Manager :=
  { manager.subscript path with
    libraries := manager.libraries.unloadLibrary path id
    loaders := Function.update manager.loaders id none
    loaderAt := Function.update manager.loaderAt path none }

theorem Sound.closed (sound : manager.Sound) (here : manager.loaders id = some loader)
    (unused : ¬0 < loader.classobjRefCount) : (manager.closed loader.libraryPath id).Sound := by
  have own := sound.placed id loader here
  have counted := sound.counted id loader here
  have nobody : ∀ object ∈ manager.objects, object.loader ≠ id := by
    have zero : (manager.objects.countP fun object => object.loader = id) = 0 := by omega
    simpa using List.countP_eq_zero.mp zero
  have kept : ∀ {other : Nat} {found : Loader}, manager.loaders other = some found → other ≠ id →
      Function.update manager.loaders id none other = some found := by
    intro other found there apart
    rw [Function.update_of_ne apart]
    exact there
  have cases_of : ∀ {other : Nat} {found : Loader}, Function.update manager.loaders id none other = some found →
      other ≠ id ∧ manager.loaders other = some found := by
    intro other found there
    by_cases same : other = id
    · rw [same, Function.update_self] at there
      cases there
    · rw [Function.update_of_ne same] at there
      exact ⟨same, there⟩
  have held_iff := Libraries.held_unloadLibrary manager.libraries loader.libraryPath id
  refine ⟨sound.consistent.step (sound.unloadsAlone here) rfl, ?_, ?_, ?_, ?_, ?_, ?_, ?_, ?_,
    nodup_subscript sound.distinct _⟩
  · intro other number there
    change Function.update manager.loaderAt loader.libraryPath none other = some number at there
    by_cases same : other = loader.libraryPath
    · rw [same, Function.update_self] at there
      cases there
    · rw [Function.update_of_ne same] at there
      obtain ⟨found, exists_, path⟩ := sound.mapped other number there
      have apart : number ≠ id := by
        rintro rfl
        rw [here] at exists_
        exact same (by rw [← path, Option.some.inj exists_])
      exact ⟨found, kept exists_ apart, path⟩
  · intro number found there
    obtain ⟨apart, before⟩ := cases_of there
    have placed := sound.placed number found before
    have elsewhere : found.libraryPath ≠ loader.libraryPath := by
      intro same
      rw [same, own] at placed
      exact apart (Option.some.inj placed).symm
    show Function.update manager.loaderAt loader.libraryPath none found.libraryPath = some number
    rw [Function.update_of_ne elsewhere]
    exact placed
  · intro other number there
    change Function.update manager.loaderAt loader.libraryPath none other = some number at there
    by_cases same : other = loader.libraryPath
    · rw [same, Function.update_self] at there
      cases there
    · rw [Function.update_of_ne same] at there
      exact mem_subscript (sound.keyed other number there)
  · intro other number member
    change (other, number) ∈ (manager.libraries.unloadLibrary loader.libraryPath id).held at member
    rw [held_iff, Libraries.mem_release] at member
    obtain ⟨found, exists_, path⟩ := sound.held other number member.1
    have apart : number ≠ id := by
      rintro rfl
      rw [here] at exists_
      exact member.2 (by rw [← path, Option.some.inj exists_])
    exact ⟨found, kept exists_ apart, path⟩
  · intro number found there
    exact sound.loaded number found (cases_of there).2
  · intro number found there
    exact sound.counted number found (cases_of there).2
  · intro object member
    obtain ⟨found, there, holds⟩ := sound.objects object member
    have apart := nobody object member
    refine ⟨found, kept there apart, ?_⟩
    show (found.libraryPath, object.loader) ∈ (manager.libraries.unloadLibrary loader.libraryPath id).held
    rw [held_iff, Libraries.mem_release]
    refine ⟨holds, fun same => ?_⟩
    exact apart (Prod.mk.inj same).2
  · intro number large
    show Function.update manager.loaders id none number = none
    by_cases same : number = id
    · rw [same, Function.update_self]
    · rw [Function.update_of_ne same]
      exact sound.beyond number large

/-- What `UnloadLibrary` does with a library that is valid. -/
theorem Sound.unloadLibrary_eq (sound : manager.Sound) (here : manager.loaders id = some loader) :
    manager.unloadLibrary loader.libraryPath = some (
      if 0 < loader.classobjRefCount then manager
      else if loader.loadlibRefCount = 1 then manager.closed loader.libraryPath id
      else manager.setLoader id (some { loader with loadlibRefCount := loader.loadlibRefCount - 1 })) := by
  have own := sound.placed id loader here
  have loaded := sound.loaded id loader here
  have valid := (sound.isLibraryValid_iff loader.libraryPath).mpr ⟨id, own⟩
  unfold Manager.unloadLibrary
  rw [if_pos valid, own, Option.bind_some, here, Option.bind_some]
  unfold loaderUnload
  dsimp only
  by_cases used : 0 < loader.classobjRefCount
  · simp only [if_pos used]
    rw [if_neg (by omega)]
  · simp only [if_neg used]
    by_cases last : loader.loadlibRefCount = 1
    · have zero : loader.loadlibRefCount - 1 = 0 := by omega
      simp only [zero, if_true, if_pos last]
      simp [deleteLoader, assign, Manager.subscript, setLoader, loaderUnload, used, Manager.closed,
        sound.keyed _ _ own]
    · have positive : ¬loader.loadlibRefCount - 1 = 0 := by omega
      have nonneg : ¬loader.loadlibRefCount - 1 < 0 := by omega
      simp only [if_neg positive, if_neg nonneg, if_neg last]

theorem Sound.unloadLibrary (sound : manager.Sound) (path : String) :
    ∃ next, manager.unloadLibrary path = some next ∧ next.Sound := by
  by_cases valid : manager.isLibraryValid path = true
  · obtain ⟨id, there⟩ := (sound.isLibraryValid_iff path).mp valid
    obtain ⟨loader, here, rfl⟩ := sound.mapped path id there
    refine ⟨_, sound.unloadLibrary_eq here, ?_⟩
    split
    · exact sound
    · rename_i unused
      split
      · exact sound.closed here unused
      · rename_i again
        have loaded := sound.loaded id loader here
        refine sound.change here { loader with loadlibRefCount := loader.loadlibRefCount - 1 } rfl sound.consistent
          (fun _ => .inr) ?_ (sound.counted id loader here) (fun _ _ => rfl) sound.objects
        show 0 < loader.loadlibRefCount - 1
        omega
  · refine ⟨manager, ?_, sound⟩
    rw [Manager.unloadLibrary, if_neg valid]

theorem Sound.unloadAll (sound : manager.Sound) (paths : List String) :
    ∃ next, paths.foldlM Manager.unloadLibrary manager = some next ∧ next.Sound := by
  induction paths generalizing manager with
  | nil => exact ⟨manager, rfl, sound⟩
  | cons path paths ih =>
    obtain ⟨middle, unloaded, kept⟩ := sound.unloadLibrary path
    obtain ⟨next, rest, kept⟩ := ih kept
    refine ⟨next, ?_, kept⟩
    rw [List.foldlM_cons, unloaded]
    exact rest

theorem Sound.createIn (sound : manager.Sound) (typeName className path : String)
    (dlopen : Option (List Registration)) :
    ∃ next, manager.createIn typeName className path dlopen = some next ∧ next.Sound := by
  unfold Manager.createIn
  dsimp only
  split
  · exact ⟨_, rfl, sound.subscript path⟩
  · rename_i id there
    obtain ⟨loader, here, _⟩ := sound.mapped path id there
    have here' : (manager.subscript path).loaders id = some loader := here
    rw [here']
    exact ⟨_, rfl, (sound.subscript path).loaderCreate here' typeName className dlopen⟩

/-- The loop of `CreateClassObj` fails at a null pointer that comes before every loader that owns the class. -/
def StopsAtNull (manager : Manager) (typeName className : String) : List (Option Nat) → Prop
  | [] => False
  | none :: _ => True
  | some id :: rest => manager.isClassValid id typeName className = false ∧ manager.StopsAtNull typeName className rest

theorem Sound.createFirst (sound : manager.Sound) (typeName className : String) (dlopen : Option (List Registration))
    (loaders : List (Option Nat)) (mapped : ∀ id, some id ∈ loaders → ∃ loader, manager.loaders id = some loader) :
    (manager.createFirst typeName className dlopen loaders = none ↔ manager.StopsAtNull typeName className loaders) ∧
    ∀ next, manager.createFirst typeName className dlopen loaders = some next → next.Sound := by
  induction loaders with
  | nil =>
    refine ⟨by simp [Manager.createFirst, StopsAtNull], fun next created => ?_⟩
    exact Option.some.inj created ▸ sound
  | cons head rest ih =>
    cases head with
    | none => exact ⟨iff_of_true rfl trivial, nofun⟩
    | some id =>
      have later := ih fun other member => mapped other (List.mem_cons_of_mem _ member)
      unfold Manager.createFirst StopsAtNull
      split
      · rename_i valid
        obtain ⟨loader, here⟩ := mapped id List.mem_cons_self
        rw [here]
        refine ⟨by simp [valid], fun next created => ?_⟩
        exact Option.some.inj created ▸ sound.loaderCreate here typeName className dlopen
      · rename_i invalid
        refine ⟨?_, later.2⟩
        rw [later.1]
        simp [invalid]

theorem Sound.deleteObj_isSome (sound : manager.Sound) (index : Nat) : ∃ next, manager.deleteObj index = some next := by
  unfold Manager.deleteObj
  split
  · exact ⟨manager, rfl⟩
  · rename_i object found
    obtain ⟨loader, here, _⟩ := sound.objects object (List.mem_of_getElem? found)
    rw [here]
    exact ⟨_, rfl⟩

theorem Sound.mapped_valid (sound : manager.Sound) (id : Nat) (member : some id ∈ manager.getAllValidClassLoaders) :
    ∃ loader, manager.loaders id = some loader := by
  obtain ⟨path, _, there⟩ := List.mem_map.mp member
  obtain ⟨loader, here, _⟩ := sound.mapped path id there
  exact ⟨loader, here⟩

theorem Sound.step (sound : manager.Sound) {call : ManagerCall} (taken : manager.step call = some next) : next.Sound := by
  cases call with
  | loadLibrary path dlopen => exact Option.some.inj taken ▸ sound.loadLibrary path dlopen
  | unloadAllLibrary =>
    obtain ⟨after, unloaded, kept⟩ := sound.unloadAll manager.getAllValidLibPath
    obtain rfl := Option.some.inj (taken.symm.trans unloaded)
    exact kept
  | createClassObj typeName className dlopen =>
    exact (sound.createFirst typeName className dlopen _ sound.mapped_valid).2 next taken
  | createClassObjIn typeName className path dlopen =>
    obtain ⟨after, created, kept⟩ := sound.createIn typeName className path dlopen
    obtain rfl := Option.some.inj (taken.symm.trans created)
    exact kept
  | deleteObj index => exact sound.deleteObj taken

theorem reached {calls : List ManagerCall} (ran : run step ({} : Manager) calls = some manager) : manager.Sound :=
  run_invariant (fun manager _ => manager.Sound) (fun _ _ _ _ taken sound => sound.step taken) start_sound ran

/-- The library outlives `UnloadAllLibrary`: an object of it is alive, or it has been loaded more than once. -/
def Outlasts (manager : Manager) (path : String) : Prop :=
  ∃ id loader, manager.loaderAt path = some id ∧ manager.loaders id = some loader ∧
    (0 < loader.classobjRefCount ∨ 1 < loader.loadlibRefCount)

/-- The library at `path` has the same loader, with the same counts. -/
def Agree (manager next : Manager) (path : String) : Prop :=
  next.loaderAt path = manager.loaderAt path ∧
    ∀ id, manager.loaderAt path = some id → next.loaders id = manager.loaders id

theorem Agree.outlasts {path : String} (agree : Agree manager next path) : next.Outlasts path ↔ manager.Outlasts path := by
  obtain ⟨pointer, loaders⟩ := agree
  unfold Outlasts
  rw [pointer]
  constructor
  · rintro ⟨id, loader, there, here, more⟩
    exact ⟨id, loader, there, (loaders id there).symm.trans here, more⟩
  · rintro ⟨id, loader, there, here, more⟩
    exact ⟨id, loader, there, (loaders id there).trans here, more⟩

theorem Agree.trans {last : Manager} {path : String} (first : Agree manager next path) (second : Agree next last path) :
    Agree manager last path := by
  obtain ⟨pointer, loaders⟩ := first
  obtain ⟨pointer', loaders'⟩ := second
  exact ⟨pointer'.trans pointer, fun id there => (loaders' id (pointer.trans there)).trans (loaders id there)⟩

theorem Sound.agree_other (sound : manager.Sound) (here : manager.loaders id = some loader) {other : String}
    (apart : other ≠ loader.libraryPath) (change : Option Loader) {number : Nat}
    (there : manager.loaderAt other = some number) :
    Function.update manager.loaders id change number = manager.loaders number := by
  obtain ⟨found, exists_, path⟩ := sound.mapped other number there
  have elsewhere : number ≠ id := by
    rintro rfl
    rw [here] at exists_
    exact apart (by rw [← path, Option.some.inj exists_])
  exact Function.update_of_ne elsewhere ..

/-- `UnloadLibrary` leaves the libraries at other paths alone. -/
theorem Sound.unloadLibrary_agree (sound : manager.Sound) {path other : String} (apart : other ≠ path)
    (unloaded : manager.unloadLibrary path = some next) : Agree manager next other := by
  by_cases valid : manager.isLibraryValid path = true
  · obtain ⟨id, there⟩ := (sound.isLibraryValid_iff path).mp valid
    obtain ⟨loader, here, rfl⟩ := sound.mapped path id there
    rw [sound.unloadLibrary_eq here] at unloaded
    obtain rfl := Option.some.inj unloaded
    split
    · exact ⟨rfl, fun _ _ => rfl⟩
    · split
      · exact ⟨Function.update_of_ne apart .., fun _ => sound.agree_other here apart none⟩
      · exact ⟨rfl, fun _ => sound.agree_other here apart _⟩
  · rw [Manager.unloadLibrary, if_neg valid] at unloaded
    obtain rfl := Option.some.inj unloaded
    exact ⟨rfl, fun _ _ => rfl⟩

/-- `UnloadLibrary` deletes the loader of its path if no object is alive and it has been loaded once. -/
theorem Sound.unloadLibrary_valid (sound : manager.Sound) {path : String}
    (unloaded : manager.unloadLibrary path = some next) :
    (∃ id, next.loaderAt path = some id) ↔ manager.Outlasts path := by
  by_cases valid : manager.isLibraryValid path = true
  · obtain ⟨id, there⟩ := (sound.isLibraryValid_iff path).mp valid
    obtain ⟨loader, here, rfl⟩ := sound.mapped path id there
    have loaded := sound.loaded id loader here
    have outlasts : manager.Outlasts loader.libraryPath ↔ 0 < loader.classobjRefCount ∨ 1 < loader.loadlibRefCount := by
      constructor
      · rintro ⟨id', found, there', here', more⟩
        obtain rfl := Option.some.inj (there.symm.trans there')
        obtain rfl := Option.some.inj (here.symm.trans here')
        exact more
      · exact fun more => ⟨id, loader, there, here, more⟩
    rw [sound.unloadLibrary_eq here] at unloaded
    obtain rfl := Option.some.inj unloaded
    rw [outlasts]
    split
    · rename_i used
      exact iff_of_true ⟨id, there⟩ (.inl used)
    · rename_i unused
      split
      · rename_i once
        refine iff_of_false ?_ (by omega)
        rintro ⟨id', left⟩
        change Function.update manager.loaderAt loader.libraryPath none loader.libraryPath = some id' at left
        rw [Function.update_self] at left
        cases left
      · rename_i again
        exact iff_of_true ⟨id, there⟩ (.inr (by omega))
  · have missing : ¬∃ id, manager.loaderAt path = some id := fun there => valid ((sound.isLibraryValid_iff path).mpr there)
    rw [Manager.unloadLibrary, if_neg valid] at unloaded
    obtain rfl := Option.some.inj unloaded
    refine iff_of_false missing ?_
    rintro ⟨id, loader, there, _⟩
    exact missing ⟨id, there⟩

/-- Each library of the loop is looked at once, and as it has been before the loop. -/
theorem Sound.unloadAll_valid (sound : manager.Sound) {paths : List String} (distinct : paths.Nodup)
    (unloaded : paths.foldlM Manager.unloadLibrary manager = some next) :
    (∀ path ∈ paths, (∃ id, next.loaderAt path = some id) ↔ manager.Outlasts path) ∧
    ∀ path, path ∉ paths → Agree manager next path := by
  induction paths generalizing manager with
  | nil =>
    obtain rfl := Option.some.inj unloaded
    exact ⟨nofun, fun _ _ => ⟨rfl, fun _ _ => rfl⟩⟩
  | cons head paths ih =>
    obtain ⟨fresh, distinct⟩ := List.nodup_cons.mp distinct
    obtain ⟨middle, first, kept⟩ := sound.unloadLibrary head
    rw [List.foldlM_cons, first] at unloaded
    obtain ⟨inside, outside⟩ := ih kept distinct unloaded
    constructor
    · intro path member
      rcases List.mem_cons.mp member with rfl | member
      · rw [(outside path fresh).1]
        exact sound.unloadLibrary_valid first
      · have apart : path ≠ head := fun same => fresh (same ▸ member)
        rw [inside path member]
        exact (sound.unloadLibrary_agree apart first).outlasts
    · intro path missing
      have apart : path ≠ head := fun same => missing (same ▸ List.mem_cons_self)
      have missing : path ∉ paths := fun member => missing (List.mem_cons_of_mem _ member)
      exact (sound.unloadLibrary_agree apart first).trans (outside path missing)

/-- `UnloadAllLibrary` from any sound state. -/
theorem Sound.unloadAllLibrary (sound : manager.Sound) : ∃ next, manager.unloadAllLibrary = some next ∧ next.Sound ∧
    (∀ path, next.isLibraryValid path = true ↔ manager.Outlasts path) ∧
    ∀ path ∈ next.libraries.opened, manager.Outlasts path := by
  obtain ⟨next, unloaded, kept⟩ := sound.unloadAll manager.getAllValidLibPath
  have distinct : manager.getAllValidLibPath.Nodup := sound.distinct.filter _
  obtain ⟨inside, outside⟩ := sound.unloadAll_valid distinct unloaded
  have valid : ∀ path, next.isLibraryValid path = true ↔ manager.Outlasts path := by
    intro path
    rw [kept.isLibraryValid_iff]
    by_cases member : path ∈ manager.getAllValidLibPath
    · exact inside path member
    · have missing : ¬∃ id, manager.loaderAt path = some id := by
        rw [← sound.isLibraryValid_iff, Manager.isLibraryValid, decide_eq_true_iff]
        exact member
      rw [(outside path member).1]
      refine iff_of_false missing ?_
      rintro ⟨id, loader, there, _⟩
      exact missing ⟨id, there⟩
  refine ⟨next, unloaded, kept, valid, fun path opened => (valid path).mp ?_⟩
  obtain ⟨id, holds⟩ := kept.consistent.used path opened
  obtain ⟨loader, here, rfl⟩ := kept.held path id holds
  exact (kept.isLibraryValid_iff _).mpr ⟨id, kept.placed id loader here⟩

/-- An object outlives neither the loader that made it, whose deleter it needs, nor the library of that loader. A loader
    counts its objects, and no library is open whose loader is not in the map. -/
theorem objects_outlived {calls : List ManagerCall} (ran : run step ({} : Manager) calls = some manager) :
    (∀ object ∈ manager.objects, ∃ loader, manager.loaders object.loader = some loader ∧
      manager.loaderAt loader.libraryPath = some object.loader ∧ loader.libraryPath ∈ manager.libraries.opened) ∧
    (∀ id loader, manager.loaders id = some loader →
      loader.classobjRefCount = (manager.objects.countP fun object => object.loader = id : Nat)) ∧
    ∀ path ∈ manager.libraries.opened, manager.isLibraryValid path = true := by
  have sound := reached ran
  refine ⟨fun object member => ?_, sound.counted, fun path opened => ?_⟩
  · obtain ⟨loader, here, holds⟩ := sound.objects object member
    exact ⟨loader, here, sound.placed _ loader here, sound.consistent.staysOpen _ _ holds⟩
  · obtain ⟨id, holds⟩ := sound.consistent.used path opened
    obtain ⟨loader, here, rfl⟩ := sound.held path id holds
    exact (sound.isLibraryValid_iff _).mpr ⟨id, sound.placed id loader here⟩

def oneClass : Option (List Registration) := some [⟨"9Component", "Perception"⟩]

/-- The library stays open as long as the object that was made of its class is alive. -/
def unloadedEarly : List ManagerCall :=
  [.loadLibrary "libperception.so" oneClass, .createClassObjIn "9Component" "Perception" "libperception.so" none,
    .unloadAllLibrary]

theorem unloadedEarly_outlived : ∃ manager, run step ({} : Manager) unloadedEarly = some manager ∧
    ∃ object ∈ manager.objects, ∃ loader, manager.loaders object.loader = some loader ∧
      loader.libraryPath ∈ manager.libraries.opened := by
  have reached : (run step ({} : Manager) unloadedEarly).any (fun manager =>
      decide (manager.objects = [⟨0, "9Component", "Perception"⟩])) = true := by
    decide +kernel
  obtain ⟨manager, ran, holds⟩ := (Option.any_eq_true _ _).mp reached
  have objects := of_decide_eq_true holds
  have member : (⟨0, "9Component", "Perception"⟩ : ClassObj) ∈ manager.objects := by simp [objects]
  obtain ⟨loader, here, _, opened⟩ := (objects_outlived ran).1 _ member
  exact ⟨manager, ran, _, member, loader, here, opened⟩

/-- No call uses a loader that has been deleted, and none a null pointer but the search of `CreateClassObj`. -/
theorem undefined_iff {calls : List ManagerCall} (ran : run step ({} : Manager) calls = some manager)
    (call : ManagerCall) : manager.step call = none ↔
      ∃ typeName className dlopen, call = .createClassObj typeName className dlopen ∧
        manager.StopsAtNull typeName className manager.getAllValidClassLoaders := by
  have sound := reached ran
  cases call with
  | loadLibrary path dlopen => simp [Manager.step]
  | unloadAllLibrary =>
    obtain ⟨next, unloaded, _⟩ := sound.unloadAll manager.getAllValidLibPath
    simp [Manager.step, unloadAllLibrary, unloaded]
  | createClassObj typeName className dlopen =>
    have stops := (sound.createFirst typeName className dlopen _ sound.mapped_valid).1
    simp [Manager.step, stops]
  | createClassObjIn typeName className path dlopen =>
    obtain ⟨next, created, _⟩ := sound.createIn typeName className path dlopen
    simp [Manager.step, created]
  | deleteObj index =>
    obtain ⟨next, deleted⟩ := sound.deleteObj_isSome index
    simp [Manager.step, deleted]

/-- A library has been asked for that was never loaded. -/
def askedForUnknown : List ManagerCall :=
  [.createClassObjIn "9Component" "Perception" "liba.so" none, .loadLibrary "libperception.so" oneClass]

theorem askedForUnknown_undefined : ∃ manager, run step ({} : Manager) askedForUnknown = some manager ∧
    manager.step (.createClassObj "9Component" "Perception" none) = none := by
  have reached : (run step ({} : Manager) askedForUnknown).any (fun manager =>
      decide (manager.getAllValidClassLoaders = [none, some 0])) = true := by
    decide +kernel
  obtain ⟨manager, ran, holds⟩ := (Option.any_eq_true _ _).mp reached
  refine ⟨manager, ran, (undefined_iff ran _).mpr ⟨_, _, _, rfl, ?_⟩⟩
  rw [of_decide_eq_true holds]
  trivial

end Manager

end CyberRT.ClassLoader
