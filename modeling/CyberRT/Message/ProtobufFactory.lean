import Mathlib.Logic.Function.Basic
import CyberRT.Execution.Run

namespace CyberRT.Message

/-- A `.proto` file. The factory reads nothing of its definitions. -/
structure FileDescriptorProto where
  name : String
  dependency : List String
  definitions : List UInt8
  deriving DecidableEq, Repr

/-- A file with the files that it imports. -/
inductive FileDescriptor where
  | mk (file : FileDescriptorProto) (dependencies : List FileDescriptor)

/-- The message of `proto_desc.proto`. -/
inductive ProtoDesc where
  | mk (desc : List UInt8) (dependencies : List ProtoDesc)

def FileDescriptor.file : FileDescriptor → FileDescriptorProto
  | mk file _ => file

/-- What the factory uses of protobuf. `parseFile` and `parseDesc` are what `ParseFromString` leaves in the message, and
    `buildFile` is `BuildFileCollectingErrors`, with `none` for the null pointer. -/
structure DescriptorLibrary (Pool : Type) where
  serializeFile : FileDescriptorProto → Option (List UInt8)
  parseFile : List UInt8 → FileDescriptorProto
  serializeDesc : ProtoDesc → Option (List UInt8)
  parseDesc : List UInt8 → ProtoDesc
  empty : Pool
  findFileByName : Pool → String → Option FileDescriptorProto
  buildFile : Pool → FileDescriptorProto → Option Pool

namespace DescriptorLibrary

variable {Pool : Type} (library : DescriptorLibrary Pool)

mutual

def getProtoDesc : FileDescriptor → Option ProtoDesc
  | .mk file dependencies => (library.serializeFile file).bind fun desc =>
    (addDependencies dependencies).map fun added => .mk desc added

/-- The loop of `GetProtoDesc`. -/
def addDependencies : List FileDescriptor → Option (List ProtoDesc)
  | [] => some []
  | dependency :: dependencies => (getProtoDesc dependency).bind fun desc =>
    (addDependencies dependencies).map fun added => desc :: added

end

/-- `none` where `desc_str` is left as it was. -/
def getDescriptorString (descriptor : FileDescriptor) : Option (List UInt8) :=
  (library.getProtoDesc descriptor).bind library.serializeDesc

def registerFile (pool : Pool) (file : FileDescriptorProto) : Pool × Bool :=
  match library.buildFile pool file with
  | some next => (next, true)
  | none => (pool, false)

mutual

def registerMessage (pool : Pool) : ProtoDesc → Pool × Bool
  | .mk desc dependencies =>
    match registerDependencies pool dependencies with
    | (next, true) => library.registerFile next (library.parseFile desc)
    | (next, false) => (next, false)

/-- The loop of `RegisterMessage`. -/
def registerDependencies (pool : Pool) : List ProtoDesc → Pool × Bool
  | [] => (pool, true)
  | dependency :: dependencies =>
    match registerMessage pool dependency with
    | (next, true) => registerDependencies next dependencies
    | (next, false) => (next, false)

end

mutual

/-- The files that `RegisterMessage` builds, in their order. -/
def files : ProtoDesc → List FileDescriptorProto
  | .mk desc dependencies => filesOf dependencies ++ [library.parseFile desc]

def filesOf : List ProtoDesc → List FileDescriptorProto
  | [] => []
  | dependency :: dependencies => files dependency ++ filesOf dependencies

end

end DescriptorLibrary

/-- The pool of the factory and the calls of `RegisterMessage` that are under way, each with the files that it has still
    to build: only `BuildFileCollectingErrors` is called under `register_mutex_`. -/
structure ProtobufFactory (Pool Thread : Type) where
  pool : Pool
  calls : Thread → Option (List UInt8 × List FileDescriptorProto) := fun _ => none
  answers : List (List UInt8 × Bool) := []

inductive FactoryEvent (Thread : Type) where
  | registerMessage (thread : Thread) (protoDescStr : List UInt8)
  | buildFile (thread : Thread)
  deriving DecidableEq, Repr

namespace ProtobufFactory

variable {Pool Thread : Type} [DecidableEq Thread] (library : DescriptorLibrary Pool)

def step (factory : ProtobufFactory Pool Thread) : FactoryEvent Thread → Option (ProtobufFactory Pool Thread)
  | .registerMessage thread protoDescStr =>
    match factory.calls thread with
    | some _ => none
    | none =>
      some { factory with
        calls := Function.update factory.calls thread
          (some (protoDescStr, library.files (library.parseDesc protoDescStr))) }
  | .buildFile thread =>
    match factory.calls thread with
    | some (protoDescStr, file :: files) =>
      match library.buildFile factory.pool file, files with
      | none, _ =>
        some { factory with
          calls := Function.update factory.calls thread none
          answers := factory.answers ++ [(protoDescStr, false)] }
      | some next, [] =>
        some { factory with
          pool := next
          calls := Function.update factory.calls thread none
          answers := factory.answers ++ [(protoDescStr, true)] }
      | some next, files =>
        some { factory with
          pool := next
          calls := Function.update factory.calls thread (some (protoDescStr, files)) }
    | _ => none

end ProtobufFactory

end CyberRT.Message
