import Mathlib.Data.List.Sort
import CyberRT.ClassLoader.Libraries

namespace CyberRT.ClassLoader

open Execution

/-- The members of a `ClassLoader`. -/
structure Loader where
  libraryPath : String
  loadlibRefCount : Int := 0
  classobjRefCount : Int := 0
  deriving DecidableEq, Repr

/-- An object that a loader has created and that has not been deleted. -/
structure ClassObj where
  loader : Nat
  typeName : String
  className : String
  deriving DecidableEq, Repr

/-- A `ClassLoaderManager` beside the loaders that it has allocated, which are known by number, and the registries of the
    process. `paths` has the keys of `libpath_loader_map_` in their order, `loaderAt` its pointers. -/
structure Manager where
  libraries : Libraries Nat := {}
  loaders : Nat → Option Loader := fun _ => none
  made : Nat := 0
  paths : List String := []
  loaderAt : String → Option Nat := fun _ => none
  objects : List ClassObj := []

/-- `dlopen` has the classes that the library registers if it has to be opened, or `none` if that fails. -/
inductive ManagerCall where
  | loadLibrary (path : String) (dlopen : Option (List Registration))
  | unloadAllLibrary
  | createClassObj (typeName className : String) (dlopen : Option (List Registration))
  | createClassObjIn (typeName className path : String) (dlopen : Option (List Registration))
  | deleteObj (index : Nat)

namespace Manager

variable (manager : Manager)

def setLoader (id : Nat) (loader : Option Loader) : Manager :=
  { manager with loaders := Function.update manager.loaders id loader }

/-- `ClassLoader::LoadLibrary`. -/
def loaderLoad (id : Nat) (loader : Loader) (dlopen : Option (List Registration)) : Manager :=
  { manager.setLoader id (some { loader with loadlibRefCount := loader.loadlibRefCount + 1 }) with
    libraries := (manager.libraries.loadLibrary loader.libraryPath id dlopen).2 }

/-- `ClassLoader::UnloadLibrary`. -/
def loaderUnload (id : Nat) (loader : Loader) : Int × Manager :=
  if 0 < loader.classobjRefCount then (loader.loadlibRefCount, manager)
  else
    let left := loader.loadlibRefCount - 1
    if left = 0 then
      (left, { manager.setLoader id (some { loader with loadlibRefCount := left }) with
        libraries := manager.libraries.unloadLibrary loader.libraryPath id })
    else
      let count := if left < 0 then 0 else left
      (count, manager.setLoader id (some { loader with loadlibRefCount := count }))

/-- `utility::GetValidClassNames` of a loader, or of no loader: `IsClassValid` looks for a name in them. -/
def isClassValid (loader : Nat) (typeName className : String) : Bool :=
  manager.libraries.factories.any fun factory =>
    factory.typeName = typeName ∧ factory.className = className ∧ factory.isOwnedBy loader

/-- `ClassLoader::CreateClassObj`. -/
def loaderCreate (id : Nat) (loader : Loader) (typeName className : String) (dlopen : Option (List Registration)) :
    Manager :=
  let opened :=
    if manager.libraries.isLibraryLoaded loader.libraryPath id then manager else manager.loaderLoad id loader dlopen
  let factory := opened.libraries.factories.find? fun factory =>
    factory.typeName = typeName ∧ factory.className = className
  match factory, opened.loaders id with
  | some factory, some loader =>
    if factory.isOwnedBy id then
      { opened.setLoader id (some { loader with classobjRefCount := loader.classobjRefCount + 1 }) with
        objects := opened.objects ++ [⟨id, typeName, className⟩] }
    else opened
  | _, _ => opened

/-- `libpath_loader_map_[path]`, which makes an entry that holds a null pointer. -/
def subscript (path : String) : Manager :=
  { manager with paths := if path ∈ manager.paths then manager.paths else manager.paths.orderedInsert (· ≤ ·) path }

def assign (path : String) (loader : Option Nat) : Manager :=
  { manager.subscript path with loaderAt := Function.update manager.loaderAt path loader }

def getAllValidClassLoaders : List (Option Nat) := manager.paths.map manager.loaderAt

def getAllValidLibPath : List String := manager.paths.filter fun path => (manager.loaderAt path).isSome

def isLibraryValid (path : String) : Bool := path ∈ manager.getAllValidLibPath

/-- `new ClassLoader(path)`. -/
def newLoader (path : String) (dlopen : Option (List Registration)) : Manager :=
  { manager with made := manager.made + 1 }.loaderLoad manager.made { libraryPath := path } dlopen

def loadLibrary (path : String) (dlopen : Option (List Registration)) : Manager :=
  if manager.isLibraryValid path then manager
  else (manager.newLoader path dlopen).assign path (some manager.made)

/-- The destructor of a loader unloads the library once more, and the memory is freed. -/
def deleteLoader (id : Nat) : Option Manager :=
  (manager.loaders id).map fun loader => (manager.loaderUnload id loader).2.setLoader id none

/-- It is `none` where the pointer is dangling. -/
def unloadLibrary (path : String) : Option Manager :=
  if manager.isLibraryValid path then
    (manager.loaderAt path).bind fun id => (manager.loaders id).bind fun loader =>
      let (numRemainUnload, unloaded) := manager.loaderUnload id loader
      if numRemainUnload = 0 then (unloaded.assign path none).deleteLoader id else some unloaded
  else some manager

def unloadAllLibrary : Option Manager := manager.getAllValidLibPath.foldlM unloadLibrary manager

/-- The loop of `CreateClassObj(class_name)`. It is `none` at a null pointer and at a dangling one. -/
def createFirst (typeName className : String) (dlopen : Option (List Registration)) : List (Option Nat) → Option Manager
  | [] => some manager
  | none :: _ => none
  | some id :: rest =>
    if manager.isClassValid id typeName className then
      (manager.loaders id).map fun loader => manager.loaderCreate id loader typeName className dlopen
    else createFirst typeName className dlopen rest

/-- `CreateClassObj(class_name, library_path)`. -/
def createIn (typeName className path : String) (dlopen : Option (List Registration)) : Option Manager :=
  let found := manager.subscript path
  match manager.loaderAt path with
  | none => some found
  | some id => (found.loaders id).map fun loader => found.loaderCreate id loader typeName className dlopen

/-- `OnClassObjDeleter` of the loader that has created the object. -/
def deleteObj (index : Nat) : Option Manager :=
  match manager.objects[index]? with
  | none => some manager
  | some object =>
    (manager.loaders object.loader).map fun loader =>
      { manager.setLoader object.loader (some { loader with classobjRefCount := loader.classobjRefCount - 1 }) with
        objects := manager.objects.eraseIdx index }

/-- It is `none` where the code uses a null pointer or a loader that has been deleted. -/
def step (manager : Manager) : ManagerCall → Option Manager
  | .loadLibrary path dlopen => some (manager.loadLibrary path dlopen)
  | .unloadAllLibrary => manager.unloadAllLibrary
  | .createClassObj typeName className dlopen =>
    manager.createFirst typeName className dlopen manager.getAllValidClassLoaders
  | .createClassObjIn typeName className path dlopen => manager.createIn typeName className path dlopen
  | .deleteObj index => manager.deleteObj index

end Manager

end CyberRT.ClassLoader
