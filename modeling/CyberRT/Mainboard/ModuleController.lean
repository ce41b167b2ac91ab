import Mathlib.Algebra.Ring.Nat
import CyberRT.ClassLoader.Manager

namespace CyberRT.Mainboard

open ClassLoader

/-- A component of a module; `initializes` is what its `Initialize` answers. -/
structure ComponentInfo where
  className : String
  nodeName : String
  initializes : Bool
  deriving DecidableEq, Repr

structure ModuleConfig where
  moduleLibrary : String
  components : List ComponentInfo
  timerComponents : List ComponentInfo
  deriving DecidableEq, Repr

abbrev DagConfig := List ModuleConfig

/-- The files that `mainboard` finds. `dagConfig` is `GetProtoFromFile`, and `dlopen` has the classes that the library
    registers, or `none` if it cannot be opened. -/
structure Environment where
  workRoot : String
  currentPath : String
  pathExists : String → Bool
  dagConfig : String → Option DagConfig
  dlopen : String → Option (List ClassLoader.Registration)
  taskPoolSize : Nat

def getAbsolutePath (pathPrefix relativePath : String) : String :=
  if relativePath.isEmpty then pathPrefix
  else if pathPrefix.isEmpty ∨ relativePath.toList.head? = some '/' then relativePath
  else if pathPrefix.toList.getLast? = some '/' then pathPrefix ++ relativePath
  else pathPrefix ++ "/" ++ relativePath

def getFileName (path : String) : String :=
  String.ofList (path.toList.reverse.takeWhile (· ≠ '/')).reverse

namespace Environment

variable (environment : Environment)

/-- Where `LoadAll` looks for an argument. -/
def modulePath (dagConf : String) : String :=
  if dagConf = getFileName dagConf then
    getAbsolutePath (getAbsolutePath environment.workRoot "dag") dagConf
  else if dagConf.toList.head? = some '/' then dagConf
  else if environment.pathExists (getAbsolutePath environment.currentPath dagConf) then
    getAbsolutePath environment.currentPath dagConf
  else getAbsolutePath environment.workRoot dagConf

def loadPath (moduleConfig : ModuleConfig) : String :=
  if moduleConfig.moduleLibrary.toList.head? = some '/' then moduleConfig.moduleLibrary
  else getAbsolutePath environment.workRoot moduleConfig.moduleLibrary

/-- `GetComponentNum`, with whether the file has a timer component. -/
def getComponentNum (path : String) : Nat × Bool :=
  match environment.dagConfig path with
  | none => (0, false)
  | some dagConfig =>
    ((dagConfig.map fun moduleConfig => moduleConfig.components.length).sum,
      dagConfig.any fun moduleConfig => !moduleConfig.timerComponents.isEmpty)

end Environment

/-- An object that has been initialised; `number` tells it from the others. -/
structure Component where
  number : Nat
  object : ClassObj
  nodeName : String
  deriving DecidableEq, Repr

/-- The members of a `ModuleController` with the maps of `GlobalData`. `shutDown` has the components whose `Shutdown`
    was called. -/
structure ModuleController where
  manager : Manager := {}
  componentList : List Component := []
  componentNums : Nat := 0
  nodeComponentMap : List Component := []
  created : Nat := 0
  shutDown : List Component := []

/-- A loop whose body may leave the function with `false`; it is `none` where the code has no defined behaviour. -/
def loop {State Item : Type} (body : State → Item → Option (State × Bool)) : State → List Item → Option (State × Bool)
  | state, [] => some (state, true)
  | state, item :: items => (body state item).bind fun (next, goesOn) =>
    if goesOn then loop body next items else some (next, false)

namespace ModuleController

variable (environment : Environment) (controller : ModuleController)

/-- `typeid(ComponentBase).name()`. -/
def componentBase : String := "N6apollo5cyber13ComponentBaseE"

/-- `RegisterComponent`, which keeps the first component of a node. -/
def registerComponent (component : Component) : List Component :=
  if component.nodeName.isEmpty ∨ controller.nodeComponentMap.any (·.nodeName = component.nodeName) then
    controller.nodeComponentMap
  else controller.nodeComponentMap ++ [component]

/-- The body of the two loops over components. The library of a loader that has the class is open, and is not opened
    again. -/
def loadComponent (info : ComponentInfo) : Option (ModuleController × Bool) :=
  (controller.manager.step (.createClassObj componentBase info.className none)).bind fun manager =>
    match manager.objects[controller.manager.objects.length]? with
    | none => some ({ controller with manager := manager }, false)
    | some object =>
      if info.initializes then
        let component : Component := ⟨controller.created, object, info.nodeName⟩
        some ({ controller with
          manager := manager
          created := controller.created + 1
          componentList := controller.componentList ++ [component]
          nodeComponentMap := controller.registerComponent component }, true)
      else (manager.deleteObj controller.manager.objects.length).map fun manager =>
        ({ controller with manager := manager }, false)

def loadModuleConfig (moduleConfig : ModuleConfig) : Option (ModuleController × Bool) :=
  let path := environment.loadPath moduleConfig
  if environment.pathExists path then
    loop loadComponent { controller with manager := controller.manager.loadLibrary path (environment.dlopen path) }
      (moduleConfig.components ++ moduleConfig.timerComponents)
  else some (controller, false)

def loadModule (path : String) : Option (ModuleController × Bool) :=
  match environment.dagConfig path with
  | none => some (controller, false)
  | some dagConfig => loop (fun controller => controller.loadModuleConfig environment) controller dagConfig

def totalComponentNums (paths : List String) : Nat :=
  (paths.map fun path => (environment.getComponentNum path).1).sum +
    if paths.any fun path => (environment.getComponentNum path).2 then environment.taskPoolSize else 0

def loadAll (dagConfList : List String) : Option (ModuleController × Bool) :=
  let paths := dagConfList.map environment.modulePath
  loop (fun controller => controller.loadModule environment)
    { controller with componentNums := totalComponentNums environment paths } paths

/-- The list lets go of a component, which is deleted unless `GlobalData` has it as well. -/
def release (component : Component) : Option ModuleController :=
  if component ∈ controller.nodeComponentMap then some controller
  else (controller.manager.deleteObj (controller.manager.objects.idxOf component.object)).map fun manager =>
    { controller with manager := manager }

def clear : Option ModuleController :=
  (controller.componentList.foldlM release
    { controller with shutDown := controller.shutDown ++ controller.componentList }).bind fun released =>
      released.manager.unloadAllLibrary.map fun manager =>
        { released with manager := manager, componentList := [] }

end ModuleController

end CyberRT.Mainboard
