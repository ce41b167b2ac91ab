import Mathlib.Data.List.Basic
import CyberRT.Execution.Run

namespace CyberRT.ClassLoader

open Execution

/-- The value of the maps by `typeid(Base).name()` and the name of the class, which are its keys. -/
structure ClassFactory (Loader : Type) where
  typeName : String
  className : String
  relativeLibraryPath : String
  relativeClassLoaders : List Loader
  deriving DecidableEq, Repr

namespace ClassFactory

variable {Loader : Type} [DecidableEq Loader] (factory : ClassFactory Loader) (loader : Loader)

def isOwnedBy : Bool := loader ∈ factory.relativeClassLoaders

def isOwnedByAnybody : Bool := !factory.relativeClassLoaders.isEmpty

def addOwnedClassLoader : ClassFactory Loader :=
  if loader ∈ factory.relativeClassLoaders then factory
  else { factory with relativeClassLoaders := factory.relativeClassLoaders ++ [loader] }

def removeOwnedClassLoader : ClassFactory Loader :=
  { factory with relativeClassLoaders := factory.relativeClassLoaders.erase loader }

theorem isOwnedBy_iff : factory.isOwnedBy loader ↔ loader ∈ factory.relativeClassLoaders := decide_eq_true_iff

theorem mem_addOwnedClassLoader (other : Loader) :
    other ∈ (factory.addOwnedClassLoader loader).relativeClassLoaders ↔
      other = loader ∨ other ∈ factory.relativeClassLoaders := by
  unfold addOwnedClassLoader
  split
  · rename_i owned
    refine ⟨.inr, ?_⟩
    rintro (rfl | member)
    · exact owned
    · exact member
  · rw [List.mem_append, List.mem_singleton]
    exact or_comm

theorem addOwnedClassLoader_path :
    (factory.addOwnedClassLoader loader).relativeLibraryPath = factory.relativeLibraryPath := by
  unfold addOwnedClassLoader
  split <;> rfl

theorem nodup_addOwnedClassLoader (nodup : factory.relativeClassLoaders.Nodup) :
    (factory.addOwnedClassLoader loader).relativeClassLoaders.Nodup := by
  unfold addOwnedClassLoader
  split
  · exact nodup
  · rename_i absent
    refine List.nodup_append.mpr ⟨nodup, by simp, ?_⟩
    rintro other member _ same rfl
    rw [List.mem_singleton.mp same] at member
    exact absent member

end ClassFactory

/-- A class that a static initialiser of a library registers. -/
structure Registration where
  typeName : String
  className : String
  deriving DecidableEq, Repr

/-- `held` has the libraries that a loader has loaded and not unloaded since. -/
structure Libraries (Loader : Type) where
  factories : List (ClassFactory Loader) := []
  opened : List String := []
  held : List (String × Loader) := []
  deriving DecidableEq, Repr

/-- `dlopen` has the classes that are registered if the library has to be opened, or `none` if that fails. -/
inductive LibraryCall (Loader : Type) where
  | load (path : String) (loader : Loader) (dlopen : Option (List Registration))
  | unload (path : String) (loader : Loader)

namespace Libraries

variable {Loader : Type} (libraries : Libraries Loader)

def isLibraryLoadedByAnybody (path : String) : Bool := path ∈ libraries.opened

def factoriesOf (path : String) : List (ClassFactory Loader) :=
  libraries.factories.filter (·.relativeLibraryPath = path)

/-- `RegisterClass` while this loader opens this library. An entry of the same names is replaced. -/
def registerClass (path : String) (loader : Loader) (factories : List (ClassFactory Loader))
    (registration : Registration) : List (ClassFactory Loader) :=
  factories.filter (fun factory =>
    ¬(factory.typeName = registration.typeName ∧ factory.className = registration.className)) ++
    [⟨registration.typeName, registration.className, path, [loader]⟩]

theorem mem_factoriesOf {path : String} {factory : ClassFactory Loader} :
    factory ∈ libraries.factoriesOf path ↔ factory ∈ libraries.factories ∧ factory.relativeLibraryPath = path := by
  simp [factoriesOf]

theorem mem_foldl_registerClass {path : String} {loader : Loader} {factories : List (ClassFactory Loader)}
    {registrations : List Registration} {factory : ClassFactory Loader}
    (member : factory ∈ registrations.foldl (registerClass path loader) factories) :
    factory ∈ factories ∨ factory.relativeLibraryPath = path ∧ factory.relativeClassLoaders = [loader] := by
  induction registrations generalizing factories with
  | nil => exact .inl member
  | cons registration rest ih =>
    rcases ih member with before | made
    · rcases List.mem_append.mp before with kept | new
      · exact .inl (List.mem_filter.mp kept).1
      · rw [List.mem_singleton.mp new]
        exact .inr ⟨rfl, rfl⟩
    · exact .inr made

/-- A library without factories is unloaded while no other loader holds it. -/
def UnloadsAlone (libraries : Libraries Loader) : LibraryCall Loader → Prop
  | .load _ _ _ => True
  | .unload path loader => path ∈ libraries.opened → libraries.factoriesOf path = [] →
    ∀ other, (path, other) ∈ libraries.held → other = loader

/-- A library is loaded when every other loader holds it, and unloaded when no other loader does. -/
def Together (libraries : Libraries Loader) : LibraryCall Loader → Prop
  | .load path loader dlopen => path ∈ libraries.opened ∨ dlopen ≠ none →
    ∀ other, other = loader ∨ (path, other) ∈ libraries.held
  | .unload path loader => ∀ other, (path, other) ∈ libraries.held → other = loader

theorem Together.unloadsAlone {libraries : Libraries Loader} {call : LibraryCall Loader}
    (together : libraries.Together call) : libraries.UnloadsAlone call := by
  cases call with
  | load path loader dlopen => trivial
  | unload path loader => exact fun _ _ => together

variable [DecidableEq Loader]

def isLibraryLoaded (path : String) (loader : Loader) : Bool :=
  let numLibClassFactoryObjs := (libraries.factoriesOf path).length
  if libraries.isLibraryLoadedByAnybody path ∧ numLibClassFactoryObjs = 0 then true
  else
    let numLibLoaderClassFactoryObjs := ((libraries.factoriesOf path).filter (·.isOwnedBy loader)).length
    libraries.isLibraryLoadedByAnybody path && numLibLoaderClassFactoryObjs ≤ numLibClassFactoryObjs

def loadLibrary (path : String) (loader : Loader) (dlopen : Option (List Registration)) : Bool × Libraries Loader :=
  if libraries.isLibraryLoadedByAnybody path then
    (true, { libraries with
      factories := libraries.factories.map fun factory =>
        if factory.relativeLibraryPath = path then factory.addOwnedClassLoader loader else factory
      held := (path, loader) :: libraries.held })
  else
    match dlopen with
    | none => (false, libraries)
    | some registrations =>
      (true, { factories := registrations.foldl (registerClass path loader) libraries.factories
               opened := libraries.opened ++ [path]
               held := (path, loader) :: libraries.held })

def destroyClassFactoryObjectsOfLibrary (path : String) (loader : Loader) : List (ClassFactory Loader) :=
  libraries.factories.filterMap fun factory =>
    if factory.relativeLibraryPath = path ∧ factory.isOwnedBy loader then
      let left := factory.removeOwnedClassLoader loader
      if left.isOwnedByAnybody then some left else none
    else some factory

def unloadLibrary (path : String) (loader : Loader) : Libraries Loader :=
  let released := { libraries with held := libraries.held.filter (· ≠ (path, loader)) }
  if path ∈ libraries.opened then
    let left := { released with factories := libraries.destroyClassFactoryObjectsOfLibrary path loader }
    if left.factoriesOf path = [] then { left with opened := left.opened.erase path } else left
  else released

def step (libraries : Libraries Loader) : LibraryCall Loader → Option (Libraries Loader)
  | .load path loader dlopen => some (libraries.loadLibrary path loader dlopen).2
  | .unload path loader => some (libraries.unloadLibrary path loader)

/-- A library is open while somebody holds it, and its factories are owned by just those. -/
structure Owned : Prop where
  staysOpen : ∀ path loader, (path, loader) ∈ libraries.held → path ∈ libraries.opened
  owners : ∀ factory ∈ libraries.factories, ∀ loader,
    factory.isOwnedBy loader ↔ (factory.relativeLibraryPath, loader) ∈ libraries.held

/-- `IsLibraryLoaded` tells who holds a library. -/
def Told : Prop := ∀ path loader, libraries.isLibraryLoaded path loader ↔ (path, loader) ∈ libraries.held

structure Consistent : Prop extends libraries.Owned where
  used : ∀ path ∈ libraries.opened, ∃ loader, (path, loader) ∈ libraries.held
  owned : ∀ factory ∈ libraries.factories,
    factory.relativeClassLoaders ≠ [] ∧ factory.relativeClassLoaders.Nodup
  openedOnce : libraries.opened.Nodup

variable {libraries} {path : String} {loader : Loader}

/-- The comparison of the numbers of factories always holds. -/
theorem isLibraryLoaded_eq (libraries : Libraries Loader) (path : String) (loader : Loader) :
    libraries.isLibraryLoaded path loader = decide (path ∈ libraries.opened) := by
  unfold isLibraryLoaded isLibraryLoadedByAnybody
  have fewer := List.length_filter_le (·.isOwnedBy loader) (libraries.factoriesOf path)
  by_cases opened : path ∈ libraries.opened
  · simp [opened, fewer]
  · simp [opened]

theorem Consistent.path_opened (consistent : libraries.Consistent) {factory : ClassFactory Loader}
    (member : factory ∈ libraries.factories) : factory.relativeLibraryPath ∈ libraries.opened := by
  obtain ⟨owner, owns⟩ := List.exists_mem_of_ne_nil _ (consistent.owned factory member).1
  have holds := (consistent.owners factory member owner).mp ((factory.isOwnedBy_iff owner).mpr owns)
  exact consistent.staysOpen _ owner holds

theorem Consistent.attach (consistent : libraries.Consistent) (opened : path ∈ libraries.opened) :
    ({ libraries with
      factories := libraries.factories.map fun factory =>
        if factory.relativeLibraryPath = path then factory.addOwnedClassLoader loader else factory
      held := (path, loader) :: libraries.held } : Libraries Loader).Consistent where
  staysOpen := by
    intro other someone holds
    rcases List.mem_cons.mp holds with same | before
    · cases same
      exact opened
    · exact consistent.staysOpen other someone before
  owners := by
    intro factory member someone
    obtain ⟨factory, before, rfl⟩ := List.mem_map.mp member
    have owners := consistent.owners factory before someone
    rw [ClassFactory.isOwnedBy_iff] at owners ⊢
    rw [List.mem_cons]
    split
    · rename_i here
      rw [ClassFactory.mem_addOwnedClassLoader, ClassFactory.addOwnedClassLoader_path, owners, here, Prod.mk.injEq]
      simp
    · rename_i elsewhere
      rw [owners]
      simp [elsewhere]
  used := by
    intro other member
    obtain ⟨someone, holds⟩ := consistent.used other member
    exact ⟨someone, List.mem_cons_of_mem _ holds⟩
  owned := by
    intro factory member
    obtain ⟨factory, before, rfl⟩ := List.mem_map.mp member
    obtain ⟨some', nodup⟩ := consistent.owned factory before
    split
    · refine ⟨?_, factory.nodup_addOwnedClassLoader loader nodup⟩
      exact List.ne_nil_of_mem ((factory.mem_addOwnedClassLoader loader loader).mpr (.inl rfl))
    · exact ⟨some', nodup⟩
  openedOnce := consistent.openedOnce

theorem Consistent.opens (consistent : libraries.Consistent) (closed : path ∉ libraries.opened)
    (registrations : List Registration) :
    ({ factories := registrations.foldl (registerClass path loader) libraries.factories
       opened := libraries.opened ++ [path]
       held := (path, loader) :: libraries.held } : Libraries Loader).Consistent where
  staysOpen := by
    intro other someone holds
    rcases List.mem_cons.mp holds with same | before
    · cases same
      simp
    · exact List.mem_append_left _ (consistent.staysOpen other someone before)
  owners := by
    intro factory member someone
    rw [ClassFactory.isOwnedBy_iff, List.mem_cons]
    rcases mem_foldl_registerClass member with before | ⟨here, alone⟩
    · have elsewhere : factory.relativeLibraryPath ≠ path := fun same => closed (same ▸ consistent.path_opened before)
      have owners := consistent.owners factory before someone
      rw [ClassFactory.isOwnedBy_iff] at owners
      rw [owners]
      simp [elsewhere]
    · have nobody : (path, someone) ∉ libraries.held := fun holds => closed (consistent.staysOpen path someone holds)
      simp [here, alone, nobody]
  used := by
    intro other member
    rcases List.mem_append.mp member with before | same
    · obtain ⟨someone, holds⟩ := consistent.used other before
      exact ⟨someone, List.mem_cons_of_mem _ holds⟩
    · rw [List.mem_singleton.mp same]
      exact ⟨loader, List.mem_cons_self⟩
  owned := by
    intro factory member
    rcases mem_foldl_registerClass member with before | ⟨-, alone⟩
    · exact consistent.owned factory before
    · rw [alone]
      exact ⟨by simp, by simp⟩
  openedOnce := by
    refine List.nodup_append.mpr ⟨consistent.openedOnce, by simp, ?_⟩
    rintro other member _ same rfl
    rw [List.mem_singleton.mp same] at member
    exact closed member

/-- A factory is left as it was, or without the loader and with others. -/
theorem mem_destroyClassFactoryObjectsOfLibrary {factory : ClassFactory Loader} :
    factory ∈ libraries.destroyClassFactoryObjectsOfLibrary path loader ↔
      ∃ before ∈ libraries.factories,
        if before.relativeLibraryPath = path ∧ before.isOwnedBy loader then
          factory = before.removeOwnedClassLoader loader ∧ factory.relativeClassLoaders ≠ []
        else factory = before := by
  unfold destroyClassFactoryObjectsOfLibrary
  rw [List.mem_filterMap]
  apply exists_congr
  intro before
  apply and_congr_right
  intro _
  by_cases owned : before.relativeLibraryPath = path ∧ before.isOwnedBy loader
  · rw [if_pos owned, if_pos owned]
    by_cases left : (before.removeOwnedClassLoader loader).relativeClassLoaders = []
    · simp only [ClassFactory.isOwnedByAnybody, left]
      refine iff_of_false (by simp) ?_
      rintro ⟨rfl, others⟩
      exact others left
    · have others : (before.removeOwnedClassLoader loader).isOwnedByAnybody := by
        simpa [ClassFactory.isOwnedByAnybody] using left
      simp only [if_pos others, Option.some.injEq]
      refine ⟨?_, fun same => same.1.symm⟩
      rintro rfl
      exact ⟨rfl, left⟩
  · rw [if_neg owned, if_neg owned, Option.some.injEq]
    exact eq_comm

theorem mem_release {held : List (String × Loader)} {entry : String × Loader} :
    entry ∈ held.filter (· ≠ (path, loader)) ↔ entry ∈ held ∧ entry ≠ (path, loader) := by
  simp

/-- What is left of the owners after `DestroyClassFactoryObjectsOfLibrary` holds the library still. -/
theorem Consistent.destroyed (consistent : libraries.Consistent) {factory : ClassFactory Loader}
    (member : factory ∈ libraries.destroyClassFactoryObjectsOfLibrary path loader) :
    (∀ other, factory.isOwnedBy other ↔ (factory.relativeLibraryPath, other) ∈ libraries.held ∧
      (factory.relativeLibraryPath, other) ≠ (path, loader)) ∧
      factory.relativeClassLoaders ≠ [] ∧ factory.relativeClassLoaders.Nodup := by
  obtain ⟨before, present, left⟩ := mem_destroyClassFactoryObjectsOfLibrary.mp member
  obtain ⟨some', nodup⟩ := consistent.owned before present
  have owners := consistent.owners before present
  simp only [ClassFactory.isOwnedBy_iff] at owners left ⊢
  split at left
  · rename_i owned
    obtain ⟨rfl, others⟩ := left
    refine ⟨?_, others, nodup.erase loader⟩
    intro other
    simp only [ClassFactory.removeOwnedClassLoader, nodup.mem_erase_iff, owners, owned.1]
    simp [and_comm]
  · rename_i unowned
    obtain rfl := left
    refine ⟨?_, some', nodup⟩
    intro other
    rw [owners other]
    refine ⟨fun holds => ⟨holds, ?_⟩, And.left⟩
    rintro same
    cases same
    exact unowned ⟨rfl, (owners loader).mpr holds⟩

/-- A factory that another loader owns is left. -/
theorem survives (path : String) {factory : ClassFactory Loader} {other : Loader}
    (member : factory ∈ libraries.factories) (owned : factory.isOwnedBy other) (differs : other ≠ loader) :
    ∃ left ∈ libraries.destroyClassFactoryObjectsOfLibrary path loader,
      left.relativeLibraryPath = factory.relativeLibraryPath := by
  by_cases own : factory.relativeLibraryPath = path ∧ factory.isOwnedBy loader
  · refine ⟨factory.removeOwnedClassLoader loader, ?_, rfl⟩
    apply mem_destroyClassFactoryObjectsOfLibrary.mpr
    refine ⟨factory, member, ?_⟩
    rw [if_pos own]
    have still : other ∈ (factory.removeOwnedClassLoader loader).relativeClassLoaders :=
      (List.mem_erase_of_ne differs).mpr ((factory.isOwnedBy_iff other).mp owned)
    exact ⟨rfl, List.ne_nil_of_mem still⟩
  · refine ⟨factory, ?_, rfl⟩
    apply mem_destroyClassFactoryObjectsOfLibrary.mpr
    exact ⟨factory, member, by rw [if_neg own]⟩

/-- Whoever else holds a library owns a factory that is left, unless the library has none. -/
theorem Consistent.only_holder (consistent : libraries.Consistent)
    (alone : libraries.UnloadsAlone (.unload path loader)) (opened : path ∈ libraries.opened)
    (none : ∀ factory ∈ libraries.destroyClassFactoryObjectsOfLibrary path loader,
      factory.relativeLibraryPath ≠ path) {someone : Loader} (holds : (path, someone) ∈ libraries.held) :
    someone = loader := by
  by_contra differs
  cases before : libraries.factoriesOf path with
  | nil => exact differs (alone opened before someone holds)
  | cons factory rest =>
    obtain ⟨member, here⟩ := mem_factoriesOf libraries |>.mp (before ▸ List.mem_cons_self : factory ∈ _)
    have owns := (consistent.owners factory member someone).mpr (here ▸ holds)
    obtain ⟨left, present, same⟩ := survives path member owns differs
    exact none left present (same.trans here)

theorem Consistent.unload (consistent : libraries.Consistent) (alone : libraries.UnloadsAlone (.unload path loader)) :
    (libraries.unloadLibrary path loader).Consistent := by
  have elsewhere : ∀ {other : String} {someone : Loader}, other ≠ path → (other, someone) ∈ libraries.held →
      (other, someone) ∈ libraries.held.filter (· ≠ (path, loader)) := by
    intro other someone differs holds
    refine mem_release.mpr ⟨holds, ?_⟩
    intro same
    cases same
    exact differs rfl
  have owners : ∀ factory ∈ libraries.destroyClassFactoryObjectsOfLibrary path loader, ∀ someone,
      factory.isOwnedBy someone ↔
        (factory.relativeLibraryPath, someone) ∈ libraries.held.filter (· ≠ (path, loader)) := by
    intro factory member someone
    rw [mem_release]
    exact (consistent.destroyed member).1 someone
  have owned : ∀ factory ∈ libraries.destroyClassFactoryObjectsOfLibrary path loader,
      factory.relativeClassLoaders ≠ [] ∧ factory.relativeClassLoaders.Nodup :=
    fun factory member => (consistent.destroyed member).2
  unfold unloadLibrary
  by_cases opened : path ∈ libraries.opened
  · simp only [if_pos opened]
    split
    · rename_i none
      have gone : ∀ factory ∈ libraries.destroyClassFactoryObjectsOfLibrary path loader,
          factory.relativeLibraryPath ≠ path := by
        intro factory present here
        exact absurd none (List.ne_nil_of_mem ((mem_factoriesOf _).mpr ⟨present, here⟩))
      constructor
      · constructor
        · intro other someone holds
          obtain ⟨before, differs⟩ := mem_release.mp holds
          have apart : other ≠ path := by
            rintro rfl
            exact differs (by rw [consistent.only_holder alone opened gone before])
          exact (List.mem_erase_of_ne apart).mpr (consistent.staysOpen other someone before)
        · exact owners
      · intro other member
        obtain ⟨apart, before⟩ := consistent.openedOnce.mem_erase_iff.mp member
        obtain ⟨someone, holds⟩ := consistent.used other before
        exact ⟨someone, elsewhere apart holds⟩
      · exact owned
      · exact consistent.openedOnce.erase path
    · rename_i some'
      constructor
      · constructor
        · exact fun other someone holds => consistent.staysOpen other someone (mem_release.mp holds).1
        · exact owners
      · intro other member
        by_cases here : other = path
        · obtain ⟨factory, kept⟩ := List.exists_mem_of_ne_nil _ some'
          obtain ⟨present, same⟩ := (mem_factoriesOf _).mp kept
          obtain ⟨someone, owns⟩ := List.exists_mem_of_ne_nil _ (owned factory present).1
          have holds := (owners factory present someone).mp ((factory.isOwnedBy_iff someone).mpr owns)
          rw [same] at holds
          rw [here]
          exact ⟨someone, holds⟩
        · obtain ⟨someone, holds⟩ := consistent.used other member
          exact ⟨someone, elsewhere here holds⟩
      · exact owned
      · exact consistent.openedOnce
  · simp only [if_neg opened]
    have same : libraries.held.filter (· ≠ (path, loader)) = libraries.held := by
      apply List.filter_eq_self.mpr
      intro entry holds
      rw [decide_eq_true_iff]
      rintro rfl
      exact opened (consistent.staysOpen path loader holds)
    rw [same]
    exact consistent

theorem consistent_start : ({} : Libraries Loader).Consistent where
  staysOpen := by simp
  owners := by simp
  used := by simp
  owned := by simp
  openedOnce := List.nodup_nil

theorem Consistent.step {call : LibraryCall Loader} {next : Libraries Loader} (consistent : libraries.Consistent)
    (alone : libraries.UnloadsAlone call) (taken : libraries.step call = some next) : next.Consistent := by
  cases call with
  | load path loader dlopen =>
    obtain rfl := Option.some.inj taken
    unfold loadLibrary isLibraryLoadedByAnybody
    split
    · rename_i opened
      exact consistent.attach (of_decide_eq_true opened)
    · rename_i closed
      cases dlopen with
      | none => exact consistent
      | some registrations => exact consistent.opens (by simpa using closed) registrations
  | unload path loader =>
    obtain rfl := Option.some.inj taken
    exact consistent.unload alone

/-- A library that is closed too early is held by somebody and not open. -/
theorem Owned.unloadsAlone {call : LibraryCall Loader} {next : Libraries Loader} (owned : next.Owned)
    (consistent : libraries.Consistent) (taken : libraries.step call = some next) : libraries.UnloadsAlone call := by
  cases call with
  | load path loader dlopen => trivial
  | unload path loader =>
    obtain rfl := Option.some.inj taken
    intro opened none other holds
    by_contra differs
    have empty : (libraries.destroyClassFactoryObjectsOfLibrary path loader).filter
        (·.relativeLibraryPath = path) = [] := by
      apply List.filter_eq_nil_iff.mpr
      intro factory member here
      obtain ⟨before, present, left⟩ := mem_destroyClassFactoryObjectsOfLibrary.mp member
      have path' : before.relativeLibraryPath = factory.relativeLibraryPath := by
        split at left
        · rw [left.1]
          rfl
        · rw [left]
      have kept := (mem_factoriesOf _).mpr ⟨present, path'.trans (of_decide_eq_true here)⟩
      exact List.ne_nil_of_mem kept none
    have still : (path, other) ∈ (libraries.unloadLibrary path loader).held := by
      have kept : (path, other) ∈ libraries.held.filter (· ≠ (path, loader)) := by
        refine mem_release.mpr ⟨holds, ?_⟩
        intro same
        cases same
        exact differs rfl
      unfold unloadLibrary
      simp only [if_pos opened]
      split <;> exact kept
    have reopened := owned.staysOpen path other still
    unfold unloadLibrary at reopened
    simp only [if_pos opened, factoriesOf, empty, if_true] at reopened
    exact (consistent.openedOnce.mem_erase_iff.mp reopened).1 rfl

theorem held_unloadLibrary (libraries : Libraries Loader) (path : String) (loader : Loader) :
    (libraries.unloadLibrary path loader).held = libraries.held.filter (· ≠ (path, loader)) := by
  unfold unloadLibrary
  dsimp only
  split
  · split <;> rfl
  · rfl

theorem opened_unloadLibrary (libraries : Libraries Loader) (path : String) (loader : Loader) :
    (libraries.unloadLibrary path loader).opened ⊆ libraries.opened := by
  unfold unloadLibrary
  dsimp only
  split
  · split
    · exact fun _ member => List.mem_of_mem_erase member
    · exact List.Subset.refl _
  · exact List.Subset.refl _

theorem Consistent.told_iff (consistent : libraries.Consistent) :
    libraries.Told ↔ ∀ path ∈ libraries.opened, ∀ loader, (path, loader) ∈ libraries.held := by
  simp only [Told, isLibraryLoaded_eq, decide_eq_true_iff]
  constructor
  · exact fun told path opened loader => (told path loader).mp opened
  · exact fun all path loader => ⟨fun opened => all path opened loader, consistent.staysOpen path loader⟩

theorem Consistent.told_step {call : LibraryCall Loader} {next : Libraries Loader} (consistent : libraries.Consistent)
    (told : libraries.Told) (together : libraries.Together call) (taken : libraries.step call = some next) :
    next.Told := by
  have kept := consistent.step together.unloadsAlone taken
  rw [consistent.told_iff] at told
  rw [kept.told_iff]
  cases call with
  | load path loader dlopen =>
    obtain rfl := Option.some.inj taken
    revert kept
    unfold loadLibrary isLibraryLoadedByAnybody
    split
    · exact fun _ other opened someone => List.mem_cons_of_mem _ (told other opened someone)
    · cases dlopen with
      | none => exact fun _ => told
      | some registrations =>
        intro _ other opened someone
        rcases List.mem_append.mp opened with before | same
        · exact List.mem_cons_of_mem _ (told other before someone)
        · rw [List.mem_singleton.mp same, List.mem_cons]
          rcases together (.inr (by simp)) someone with rfl | holds
          · exact .inl rfl
          · exact .inr holds
  | unload path loader =>
    obtain rfl := Option.some.inj taken
    intro other opened someone
    have apart : other ≠ path := by
      rintro rfl
      obtain ⟨user, holds⟩ := kept.used other opened
      rw [held_unloadLibrary, mem_release] at holds
      exact holds.2 (by rw [together user holds.1])
    rw [held_unloadLibrary, mem_release]
    refine ⟨told other (opened_unloadLibrary libraries path loader opened) someone, ?_⟩
    intro same
    cases same
    exact apart rfl

theorem Told.together {call : LibraryCall Loader} {next : Libraries Loader} (told : next.Told) (owned : next.Owned)
    (taken : libraries.step call = some next) : libraries.Together call := by
  simp only [Told, isLibraryLoaded_eq, decide_eq_true_iff] at told
  cases call with
  | load path loader dlopen =>
    obtain rfl := Option.some.inj taken
    intro opens other
    revert told
    unfold loadLibrary isLibraryLoadedByAnybody
    split
    · rename_i opened
      intro told
      rcases List.mem_cons.mp ((told path other).mp (of_decide_eq_true opened)) with same | holds
      · exact .inl (Prod.mk.inj same).2
      · exact .inr holds
    · rename_i closed
      cases dlopen with
      | none =>
        rcases opens with opened | opens
        · exact absurd (decide_eq_true opened) closed
        · exact absurd rfl opens
      | some registrations =>
        intro told
        rcases List.mem_cons.mp ((told path other).mp (by simp)) with same | holds
        · exact .inl (Prod.mk.inj same).2
        · exact .inr holds
  | unload path loader =>
    obtain rfl := Option.some.inj taken
    intro other holds
    by_contra differs
    have still : (path, other) ∈ (libraries.unloadLibrary path loader).held := by
      rw [held_unloadLibrary, mem_release]
      refine ⟨holds, ?_⟩
      intro same
      exact differs (Prod.mk.inj same).2
    have released := (told path loader).mp (owned.staysOpen path other still)
    rw [held_unloadLibrary, mem_release] at released
    exact released.2 rfl

theorem ran_some (libraries : Libraries Loader) (calls : List (LibraryCall Loader)) :
    ∃ final, run step libraries calls = some final := by
  induction calls generalizing libraries with
  | nil => exact ⟨libraries, rfl⟩
  | cons call rest ih =>
    cases call with
    | load path loader dlopen => exact ih _
    | unload path loader => exact ih _

theorem libraries_agree_iff (calls : List (LibraryCall Loader)) :
    (Meets step UnloadsAlone ({} : Libraries Loader) calls ↔
      ∀ past, past <+: calls → ∀ libraries : Libraries Loader, run step {} past = some libraries → libraries.Owned) ∧
    (Meets step Together ({} : Libraries Loader) calls ↔
      ∀ past, past <+: calls → ∀ libraries : Libraries Loader, run step {} past = some libraries →
        libraries.Owned ∧ libraries.Told) := by
  obtain ⟨final, ran⟩ := ran_some ({} : Libraries Loader) calls
  constructor
  · apply meets_iff_always (fun libraries => libraries.Consistent) (fun libraries => libraries.Owned) _ _ _
      consistent_start ran
    · exact fun state call next alone taken consistent => consistent.step alone taken
    · exact fun state consistent => consistent.toOwned
    · exact fun state call next consistent taken owned => owned.unloadsAlone consistent taken
  · have start : ({} : Libraries Loader).Told := consistent_start.told_iff.mpr (by simp)
    apply meets_iff_always (fun libraries => libraries.Consistent ∧ libraries.Told)
      (fun libraries => libraries.Owned ∧ libraries.Told) _ _ _ ⟨consistent_start, start⟩ ran
    · intro state call next together taken held
      exact ⟨held.1.step together.unloadsAlone taken, held.1.told_step held.2 together taken⟩
    · exact fun state held => ⟨held.1.toOwned, held.2⟩
    · exact fun state call next held taken good => good.2.together good.1 taken

/-- Two loaders share a library that registers a class, and one that registers none. -/
def shared : List (LibraryCall Bool) :=
  [.load "libplugin1.so" true (some [⟨"4Base", "Circle"⟩]), .load "libplain.so" true (some []),
    .load "libplain.so" false none, .unload "libplain.so" true]

/-- The second loader never loaded the first library, and the second library is closed while it holds that one. -/
theorem shared_disagrees : ∃ libraries, run step {} shared = some libraries ∧
    libraries.isLibraryLoaded "libplugin1.so" false = true ∧ ("libplugin1.so", false) ∉ libraries.held ∧
    "libplain.so" ∉ libraries.opened ∧ ("libplain.so", false) ∈ libraries.held ∧
    ¬libraries.Told ∧ ¬libraries.Owned := by
  have reached : (run step {} shared).any (fun libraries =>
      decide (libraries.isLibraryLoaded "libplugin1.so" false = true ∧ ("libplugin1.so", false) ∉ libraries.held ∧
        "libplain.so" ∉ libraries.opened ∧ ("libplain.so", false) ∈ libraries.held)) = true := by
    decide +kernel
  obtain ⟨libraries, ran, holds⟩ := (Option.any_eq_true _ _).mp reached
  obtain ⟨told, never, closed, held⟩ := of_decide_eq_true holds
  refine ⟨libraries, ran, told, never, closed, held, ?_, ?_⟩
  · exact fun agrees => never ((agrees _ _).mp told)
  · exact fun owned => closed (owned.staysOpen _ _ held)

end Libraries

end CyberRT.ClassLoader
