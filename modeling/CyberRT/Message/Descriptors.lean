import CyberRT.Message.ProtobufFactory

namespace CyberRT.Message

open Execution

namespace FileDescriptor

mutual

/-- A file behind those that it imports. -/
def postorder : FileDescriptor → List FileDescriptorProto
  | .mk file dependencies => postorderOf dependencies ++ [file]

def postorderOf : List FileDescriptor → List FileDescriptorProto
  | [] => []
  | dependency :: dependencies => postorder dependency ++ postorderOf dependencies

end

/-- Every file of the descriptor meets `Holds`, and imports are by name. -/
inductive Over (Holds : FileDescriptorProto → Prop) : FileDescriptor → Prop
  | mk {file : FileDescriptorProto} {dependencies : List FileDescriptor} (holds : Holds file)
      (named : dependencies.map (fun dependency => dependency.file.name) = file.dependency)
      (each : ∀ dependency ∈ dependencies, Over Holds dependency) : Over Holds (.mk file dependencies)

theorem mem_postorder_self (descriptor : FileDescriptor) : descriptor.file ∈ descriptor.postorder := by
  obtain ⟨file, dependencies⟩ := descriptor
  exact List.mem_append_right _ (List.mem_singleton.mpr rfl)

theorem mem_postorderOf {dependencies : List FileDescriptor} {file : FileDescriptorProto} :
    file ∈ postorderOf dependencies ↔ ∃ dependency ∈ dependencies, file ∈ dependency.postorder := by
  induction dependencies with
  | nil => simp [postorderOf]
  | cons dependency dependencies ih => simp [postorderOf, ih]

variable {Holds Known : FileDescriptorProto → Prop} {descriptor other : FileDescriptor}

theorem Over.mono (linked : descriptor.Over Holds) (all : ∀ file ∈ descriptor.postorder, Known file) :
    descriptor.Over Known := by
  induction linked with
  | mk holds named each ih =>
    refine .mk (all _ (mem_postorder_self _)) named fun dependency member => ih dependency member fun file inside => ?_
    exact all file (List.mem_append_left _ (mem_postorderOf.mpr ⟨dependency, member, inside⟩))

/-- Where the name decides the file, it decides the descriptor. -/
theorem Over.eq_of_name (linked : descriptor.Over Holds) (linked' : other.Over Holds)
    (unique : ∀ first second, Holds first → Holds second → first.name = second.name → first = second)
    (same : descriptor.file.name = other.file.name) : descriptor = other := by
  induction linked generalizing other with
  | @mk file dependencies holds named each ih =>
    obtain ⟨holds', named', each'⟩ := linked'
    rename_i file' dependencies'
    obtain rfl : file = file' := unique _ _ holds holds' same
    have names := named.trans named'.symm
    congr 1
    apply List.ext_getElem
    · simpa using congrArg List.length names
    · intro index inside inside'
      refine ih _ (List.getElem_mem inside) (each' _ (List.getElem_mem inside')) ?_
      have there := List.getElem_of_eq names (by rwa [List.length_map])
      rwa [List.getElem_map, List.getElem_map] at there

end FileDescriptor

variable {sources : FileDescriptorProto → Prop} {seen more : String → Prop}

/-- The files are sources, and each imports files that have been seen or stand before it. -/
def Builds (sources : FileDescriptorProto → Prop) : (String → Prop) → List FileDescriptorProto → Prop
  | _, [] => True
  | seen, file :: files => sources file ∧ (∀ name ∈ file.dependency, seen name) ∧
    Builds sources (fun name => seen name ∨ name = file.name) files

theorem Builds.mono {files : List FileDescriptorProto} (builds : Builds sources seen files)
    (all : ∀ name, seen name → more name) : Builds sources more files := by
  induction files generalizing seen more with
  | nil => trivial
  | cons file files ih =>
    obtain ⟨source, imports, rest⟩ := builds
    exact ⟨source, fun name imported => all name (imports name imported), ih rest fun name => Or.imp_left (all name)⟩

theorem Builds.append {first second : List FileDescriptorProto} (builds : Builds sources seen first)
    (builds' : Builds sources (fun name => seen name ∨ ∃ file ∈ first, name = file.name) second) :
    Builds sources seen (first ++ second) := by
  induction first generalizing seen with
  | nil => exact builds'.mono fun name before => before.resolve_right fun ⟨_, impossible, _⟩ => nomatch impossible
  | cons file files ih =>
    obtain ⟨source, imports, rest⟩ := builds
    refine ⟨source, imports, ih rest (builds'.mono fun name => ?_)⟩
    rintro (before | ⟨other, member, same⟩)
    · exact Or.inl (Or.inl before)
    · rcases List.mem_cons.mp member with rfl | later
      · exact Or.inl (Or.inr same)
      · exact Or.inr ⟨other, later, same⟩

namespace FileDescriptor

theorem Over.builds {descriptor : FileDescriptor} (linked : descriptor.Over sources) (seen : String → Prop) :
    Builds sources seen descriptor.postorder := by
  induction linked generalizing seen with
  | @mk file dependencies source named each ih =>
    have inner : ∀ part : List FileDescriptor, (∀ dependency ∈ part, dependency ∈ dependencies) →
        ∀ seen, Builds sources seen (postorderOf part) := by
      intro part within
      induction part with
      | nil => exact fun _ => trivial
      | cons dependency part ih' =>
        intro seen
        exact (ih dependency (within _ List.mem_cons_self) seen).append
          (ih' (fun other member => within other (List.mem_cons_of_mem _ member)) _)
    refine (inner dependencies (fun _ member => member) seen).append ⟨source, fun name imported => ?_, trivial⟩
    rw [← named] at imported
    obtain ⟨dependency, member, rfl⟩ := List.mem_map.mp imported
    exact Or.inr ⟨_, mem_postorderOf.mpr ⟨dependency, member, mem_postorder_self dependency⟩, rfl⟩

end FileDescriptor

namespace DescriptorLibrary

variable {Pool : Type} {library : DescriptorLibrary Pool}

/-- The `.proto` files that the processes were compiled from have different names, and a pool that holds only such files
    takes each of them once it has those that it imports. A file that the pool has already is found again. -/
structure Lawful (library : DescriptorLibrary Pool) (sources : FileDescriptorProto → Prop) : Prop where
  file : ∀ file bytes, library.serializeFile file = some bytes → library.parseFile bytes = file
  desc : ∀ desc bytes, library.serializeDesc desc = some bytes → library.parseDesc bytes = desc
  unique : ∀ first second, sources first → sources second → first.name = second.name → first = second
  empty : ∀ name, library.findFileByName library.empty name = none
  again : ∀ pool file, library.findFileByName pool file.name = some file → library.buildFile pool file = some pool
  links : ∀ pool file, (∀ name found, library.findFileByName pool name = some found → sources found) → sources file →
    (∀ name ∈ file.dependency, (library.findFileByName pool name).isSome = true) →
    library.findFileByName pool file.name = none →
    ∃ next, library.buildFile pool file = some next ∧
      library.findFileByName next = Function.update (library.findFileByName pool) file.name (some file)

mutual

theorem files_getProtoDesc (lawful : library.Lawful sources) : ∀ (descriptor : FileDescriptor) (desc : ProtoDesc),
    library.getProtoDesc descriptor = some desc → library.files desc = descriptor.postorder
  | .mk file dependencies, desc, made => by
    rw [getProtoDesc] at made
    obtain ⟨bytes, serialized, made⟩ := Option.bind_eq_some_iff.mp made
    obtain ⟨added, inner, rfl⟩ := Option.map_eq_some_iff.mp made
    rw [files, FileDescriptor.postorder, filesOf_addDependencies lawful dependencies added inner,
      lawful.file file bytes serialized]

theorem filesOf_addDependencies (lawful : library.Lawful sources) :
    ∀ (dependencies : List FileDescriptor) (added : List ProtoDesc),
      library.addDependencies dependencies = some added → library.filesOf added = FileDescriptor.postorderOf dependencies
  | [], added, made => by
    obtain rfl := Option.some.inj made
    rfl
  | dependency :: dependencies, added, made => by
    rw [addDependencies] at made
    obtain ⟨desc, first, made⟩ := Option.bind_eq_some_iff.mp made
    obtain ⟨rest, inner, rfl⟩ := Option.map_eq_some_iff.mp made
    rw [filesOf, FileDescriptor.postorderOf, files_getProtoDesc lawful dependency desc first,
      filesOf_addDependencies lawful dependencies rest inner]

end

theorem files_getDescriptorString (lawful : library.Lawful sources) {descriptor : FileDescriptor} {bytes : List UInt8}
    (made : library.getDescriptorString descriptor = some bytes) :
    library.files (library.parseDesc bytes) = descriptor.postorder := by
  obtain ⟨desc, built, serialized⟩ := Option.bind_eq_some_iff.mp made
  rw [lawful.desc desc bytes serialized, files_getProtoDesc lawful descriptor desc built]

theorem files_ne_nil (library : DescriptorLibrary Pool) : ∀ desc : ProtoDesc, library.files desc ≠ []
  | .mk _ _ => List.append_ne_nil_of_right_ne_nil _ (List.cons_ne_nil _ _)

/-- The files are built one behind the other until one fails. -/
def registerAll (library : DescriptorLibrary Pool) (pool : Pool) : List FileDescriptorProto → Pool × Bool
  | [] => (pool, true)
  | file :: files =>
    match library.buildFile pool file with
    | some next => library.registerAll next files
    | none => (pool, false)

theorem registerAll_append (pool : Pool) (first second : List FileDescriptorProto) :
    library.registerAll pool (first ++ second) =
      match library.registerAll pool first with
      | (next, true) => library.registerAll next second
      | (next, false) => (next, false) := by
  induction first generalizing pool with
  | nil => rfl
  | cons file files ih =>
    rw [List.cons_append, registerAll, registerAll]
    cases library.buildFile pool file with
    | none => rfl
    | some next => exact ih next

mutual

theorem registerMessage_eq (pool : Pool) : ∀ desc : ProtoDesc,
    library.registerMessage pool desc = library.registerAll pool (library.files desc)
  | .mk desc dependencies => by
    rw [registerMessage, files, registerAll_append, registerDependencies_eq pool dependencies]
    rcases library.registerAll pool (library.filesOf dependencies) with ⟨next, _ | _⟩
    · rfl
    · cases built : library.buildFile next (library.parseFile desc) <;> simp [registerFile, registerAll, built]

theorem registerDependencies_eq (pool : Pool) : ∀ dependencies : List ProtoDesc,
    library.registerDependencies pool dependencies = library.registerAll pool (library.filesOf dependencies)
  | [] => rfl
  | dependency :: dependencies => by
    rw [registerDependencies, filesOf, registerAll_append, registerMessage_eq pool dependency]
    rcases library.registerAll pool (library.files dependency) with ⟨next, _ | _⟩
    · rfl
    · exact registerDependencies_eq next dependencies

end

end DescriptorLibrary

namespace ProtobufFactory

variable {Pool Thread : Type} {library : DescriptorLibrary Pool} {factory next : ProtobufFactory Pool Thread}

def Found (library : DescriptorLibrary Pool) (pool : Pool) (file : FileDescriptorProto) : Prop :=
  library.findFileByName pool file.name = some file

/-- What holds of a call that has `files` still to build. -/
def UnderWay (library : DescriptorLibrary Pool) (sources : FileDescriptorProto → Prop) (pool : Pool)
    (protoDescStr : List UInt8) (files : List FileDescriptorProto) : Prop :=
  files ≠ [] ∧ Builds sources (fun name => (library.findFileByName pool name).isSome = true) files ∧
    ∃ done, library.files (library.parseDesc protoDescStr) = done ++ files ∧ ∀ file ∈ done, Found library pool file

def Returned (library : DescriptorLibrary Pool) (pool : Pool) (protoDescStr : List UInt8) (answer : Bool) : Prop :=
  answer = true ∧ ∀ file ∈ library.files (library.parseDesc protoDescStr), Found library pool file

/-- The pool holds sources only. A call has built a first part of its files and can go on, and a call that has returned
    has built them all. -/
structure Serves (library : DescriptorLibrary Pool) (sources : FileDescriptorProto → Prop)
    (factory : ProtobufFactory Pool Thread) : Prop where
  known : ∀ name found, library.findFileByName factory.pool name = some found → sources found ∧ found.name = name
  calls : ∀ thread protoDescStr files, factory.calls thread = some (protoDescStr, files) →
    UnderWay library sources factory.pool protoDescStr files
  answered : ∀ protoDescStr answer, (protoDescStr, answer) ∈ factory.answers →
    Returned library factory.pool protoDescStr answer

theorem start_serves (lawful : library.Lawful sources) :
    Serves library sources (⟨library.empty, fun _ => none, []⟩ : ProtobufFactory Pool Thread) where
  known name _ there := nomatch (lawful.empty name).symm.trans there
  calls := nofun
  answered := nofun

/-- `BuildFile` of the next file. -/
theorem Serves.build (lawful : library.Lawful sources) (serves : Serves library sources factory)
    {file : FileDescriptorProto} (source : sources file)
    (imports : ∀ name ∈ file.dependency, (library.findFileByName factory.pool name).isSome = true) :
    ∃ pool, library.buildFile factory.pool file = some pool ∧
      library.findFileByName pool =
        Function.update (library.findFileByName factory.pool) file.name (some file) := by
  cases there : library.findFileByName factory.pool file.name with
  | none => exact lawful.links factory.pool file (fun name found here => (serves.known name found here).1) source imports there
  | some found =>
    obtain ⟨source', named⟩ := serves.known file.name found there
    obtain rfl := lawful.unique found file source' source named
    exact ⟨factory.pool, lawful.again factory.pool found there, (Function.update_eq_self_iff.mpr there.symm).symm⟩

/-- What the pool has is still there when a source has been built. -/
theorem Serves.found_update (lawful : library.Lawful sources) (serves : Serves library sources factory)
    {file : FileDescriptorProto} (source : sources file) {pool : Pool}
    (added : library.findFileByName pool = Function.update (library.findFileByName factory.pool) file.name (some file))
    {other : FileDescriptorProto} (found : Found library factory.pool other) : Found library pool other := by
  unfold Found
  rw [added]
  by_cases same : other.name = file.name
  · obtain rfl := lawful.unique other file (serves.known _ _ found).1 source same
    exact Function.update_self ..
  · exact (Function.update_of_ne same ..).trans found

/-- Between two pools of which the second has everything that the first has. -/
theorem UnderWay.mono {pool later : Pool} {protoDescStr : List UInt8} {files : List FileDescriptorProto}
    (underWay : UnderWay library sources pool protoDescStr files)
    (keeps : ∀ file, Found library pool file → Found library later file)
    (sees : ∀ name, (library.findFileByName pool name).isSome = true → (library.findFileByName later name).isSome = true) :
    UnderWay library sources later protoDescStr files := by
  obtain ⟨left, builds, done, split, built⟩ := underWay
  exact ⟨left, builds.mono sees, done, split, fun file member => keeps file (built file member)⟩

/-- A source has been built. -/
theorem Serves.built (lawful : library.Lawful sources) (serves : Serves library sources factory)
    {file : FileDescriptorProto} (source : sources file)
    (added : library.findFileByName next.pool =
      Function.update (library.findFileByName factory.pool) file.name (some file))
    (calls : ∀ thread protoDescStr files, next.calls thread = some (protoDescStr, files) →
      factory.calls thread = some (protoDescStr, files) ∨ UnderWay library sources next.pool protoDescStr files)
    (answered : ∀ protoDescStr answer, (protoDescStr, answer) ∈ next.answers →
      (protoDescStr, answer) ∈ factory.answers ∨ Returned library next.pool protoDescStr answer) :
    Serves library sources next := by
  have keeps := fun other (found : Found library factory.pool other) => serves.found_update lawful source added found
  have sees : ∀ name, (library.findFileByName factory.pool name).isSome = true →
      (library.findFileByName next.pool name).isSome = true := by
    intro name before
    rw [added]
    by_cases same : name = file.name
    · rw [same, Function.update_self]
      rfl
    · rwa [Function.update_of_ne same]
  refine ⟨fun name found there => ?_, fun thread protoDescStr files here => ?_, fun protoDescStr answer member => ?_⟩
  · rw [added] at there
    by_cases same : name = file.name
    · rw [same, Function.update_self] at there
      obtain rfl := Option.some.inj there
      exact ⟨source, same.symm⟩
    · rw [Function.update_of_ne same] at there
      exact serves.known name found there
  · rcases calls thread protoDescStr files here with before | underWay
    · exact (serves.calls thread protoDescStr files before).mono keeps sees
    · exact underWay
  · rcases answered protoDescStr answer member with before | returned
    · obtain ⟨yes, all⟩ := serves.answered protoDescStr answer before
      exact ⟨yes, fun file inside => keeps file (all file inside)⟩
    · exact returned

variable [DecidableEq Thread]

/-- The string is what `GetDescriptorString` has made of a descriptor of the sources. -/
def Sent (library : DescriptorLibrary Pool) (sources : FileDescriptorProto → Prop) (protoDescStr : List UInt8) : Prop :=
  ∃ descriptor : FileDescriptor, descriptor.Over sources ∧ library.getDescriptorString descriptor = some protoDescStr

theorem Serves.registerMessage (lawful : library.Lawful sources) (serves : Serves library sources factory)
    {thread : Thread} {protoDescStr : List UInt8} (sent : Sent library sources protoDescStr)
    (taken : factory.step library (.registerMessage thread protoDescStr) = some next) : Serves library sources next := by
  obtain ⟨descriptor, linked, made⟩ := sent
  have files := library.files_getDescriptorString lawful made
  simp only [step] at taken
  split at taken
  · cases taken
  · obtain rfl := Option.some.inj taken
    refine ⟨serves.known, fun other str rest here => ?_, serves.answered⟩
    change Function.update factory.calls thread _ other = _ at here
    by_cases own : other = thread
    · rw [own, Function.update_self] at here
      obtain ⟨rfl, rfl⟩ := Prod.mk.inj (Option.some.inj here)
      rw [files]
      exact ⟨List.ne_nil_of_mem (FileDescriptor.mem_postorder_self descriptor), linked.builds _, [], files, nofun⟩
    · rw [Function.update_of_ne own] at here
      exact serves.calls other str rest here

theorem Serves.buildFile (lawful : library.Lawful sources) (serves : Serves library sources factory) {thread : Thread}
    (taken : factory.step library (.buildFile thread) = some next) : Serves library sources next := by
  simp only [step] at taken
  split at taken
  · rename_i protoDescStr file files here
    obtain ⟨-, ⟨source, imports, rest⟩, done, split, built⟩ := serves.calls thread _ _ here
    obtain ⟨pool, builds, added⟩ := serves.build lawful source imports
    have own : Found library pool file := by
      unfold Found
      rw [added, Function.update_self]
    have all : ∀ other ∈ done ++ [file], Found library pool other := by
      intro other member
      rcases List.mem_append.mp member with before | last
      · exact serves.found_update lawful source added (built other before)
      · rwa [List.mem_singleton.mp last]
    have others : ∀ (state : Option (List UInt8 × List FileDescriptorProto)) (other : Thread) {call},
        Function.update factory.calls thread state other = some call →
          factory.calls other = some call ∨ state = some call := by
      intro state other call there
      by_cases same : other = thread
      · rw [same, Function.update_self] at there
        exact Or.inr there
      · rw [Function.update_of_ne same] at there
        exact Or.inl there
    rw [builds] at taken
    cases files with
    | nil =>
      obtain rfl := Option.some.inj taken
      refine serves.built lawful source added (fun other str rest there => ?_) fun str answer member => ?_
      · exact Or.inl ((others none other there).resolve_right nofun)
      · rcases List.mem_append.mp member with before | last
        · exact Or.inl before
        · obtain ⟨rfl, rfl⟩ := Prod.mk.inj (List.mem_singleton.mp last)
          exact Or.inr ⟨rfl, split ▸ all⟩
    | cons head files =>
      obtain rfl := Option.some.inj taken
      refine serves.built lawful source added (fun other str left there => ?_) fun _ _ => Or.inl
      refine (others _ other there).imp id fun same => ?_
      obtain ⟨rfl, rfl⟩ := Prod.mk.inj (Option.some.inj same)
      refine ⟨nofun, rest.mono fun name => ?_, done ++ [file], by rw [split, List.append_assoc]; rfl, all⟩
      rintro (before | rfl)
      · show (library.findFileByName pool name).isSome = true
        rw [added]
        by_cases same : name = file.name
        · rw [same, Function.update_self]
          rfl
        · rwa [Function.update_of_ne same]
      · exact own.symm ▸ rfl
  · cases taken

theorem builds_alone (factory : ProtobufFactory Pool Thread) {thread : Thread} {protoDescStr : List UInt8} {file : FileDescriptorProto}
    {files : List FileDescriptorProto} (here : factory.calls thread = some (protoDescStr, file :: files)) :
    ∃ count, run (step library) factory (List.replicate count (.buildFile thread)) = some
      { pool := (library.registerAll factory.pool (file :: files)).1
        calls := Function.update factory.calls thread none
        answers := factory.answers ++ [(protoDescStr, (library.registerAll factory.pool (file :: files)).2)] } := by
  induction files generalizing factory file with
  | nil =>
    refine ⟨1, ?_⟩
    simp only [List.replicate, run_cons, step, here, DescriptorLibrary.registerAll]
    cases library.buildFile factory.pool file <;> rfl
  | cons head files ih =>
    cases built : library.buildFile factory.pool file with
    | none =>
      refine ⟨1, ?_⟩
      simp only [List.replicate, run_cons, step, here, DescriptorLibrary.registerAll, built]
      rfl
    | some pool =>
      obtain ⟨count, ran⟩ := ih { factory with
        pool := pool
        calls := Function.update factory.calls thread (some (protoDescStr, head :: files)) } (Function.update_self ..)
      refine ⟨count + 1, ?_⟩
      rw [Function.update_idem] at ran
      rw [DescriptorLibrary.registerAll, built]
      simp only [List.replicate_succ, run_cons, step, here, built]
      exact ran

/-- A call that nothing else comes between is `RegisterMessage`. -/
theorem called_alone {thread : Thread} (idle : factory.calls thread = none) (protoDescStr : List UInt8) :
    ∃ count, run (step library) factory
        (.registerMessage thread protoDescStr :: List.replicate count (.buildFile thread)) = some
      { factory with
        pool := (library.registerMessage factory.pool (library.parseDesc protoDescStr)).1
        answers := factory.answers ++
          [(protoDescStr, (library.registerMessage factory.pool (library.parseDesc protoDescStr)).2)] } := by
  obtain ⟨file, files, first⟩ := List.exists_cons_of_ne_nil (library.files_ne_nil (library.parseDesc protoDescStr))
  obtain ⟨count, ran⟩ := builds_alone { factory with
    calls := Function.update factory.calls thread (some (protoDescStr, file :: files)) } (Function.update_self ..)
  have same : Function.update factory.calls thread none = factory.calls := Function.update_eq_self_iff.mpr idle.symm
  rw [Function.update_idem, same, ← first, ← library.registerMessage_eq] at ran
  refine ⟨count, ?_⟩
  simp only [run_cons, step, idle]
  exact ran

theorem Serves.step (lawful : library.Lawful sources) (serves : Serves library sources factory)
    {event : FactoryEvent Thread}
    (sent : ∀ thread protoDescStr, event = .registerMessage thread protoDescStr → Sent library sources protoDescStr)
    (taken : factory.step library event = some next) : Serves library sources next := by
  cases event with
  | registerMessage thread protoDescStr => exact serves.registerMessage lawful (sent thread protoDescStr rfl) taken
  | buildFile thread => exact serves.buildFile lawful taken

/-- However many threads register what they have received from other processes, every call succeeds, and its descriptor
    is in the pool with everything that it imports: whatever descriptor the pool has of that file, `GetDescriptorString`
    makes the string of it that was received. -/
theorem registered (lawful : library.Lawful sources) {events : List (FactoryEvent Thread)}
    (sent : ∀ thread protoDescStr, .registerMessage thread protoDescStr ∈ events → Sent library sources protoDescStr)
    (ran : run (step library) ⟨library.empty, fun _ => none, []⟩ events = some factory) :
    ∀ protoDescStr answer, (protoDescStr, answer) ∈ factory.answers → answer = true ∧
      ∀ descriptor : FileDescriptor, descriptor.Over sources →
        library.getDescriptorString descriptor = some protoDescStr →
        descriptor.Over (Found library factory.pool) ∧
          ∀ known : FileDescriptor, known.Over (Found library factory.pool) → known.file.name = descriptor.file.name →
            library.getDescriptorString known = some protoDescStr := by
  have meets : Meets (step library) (fun _ event => ∀ thread protoDescStr,
      event = .registerMessage thread protoDescStr → Sent library sources protoDescStr)
      (⟨library.empty, fun _ => none, []⟩ : ProtobufFactory Pool Thread) events := by
    refine meets_of_forall (fun event member _ thread protoDescStr same => ?_) _
    exact sent thread protoDescStr (same ▸ member)
  have serves : Serves library sources factory :=
    meets.preserves (Serves library sources) (fun _ _ _ met taken serves => serves.step lawful met taken)
      (start_serves lawful) ran
  intro protoDescStr answer member
  obtain ⟨yes, all⟩ := serves.answered protoDescStr answer member
  refine ⟨yes, fun descriptor linked made => ?_⟩
  rw [library.files_getDescriptorString lawful made] at all
  have found := linked.mono all
  refine ⟨found, fun known linked' same => ?_⟩
  have unique : ∀ first second, Found library factory.pool first → Found library factory.pool second →
      first.name = second.name → first = second := by
    intro first second here there named
    unfold Found at here there
    rw [named] at here
    exact Option.some.inj (here.symm.trans there)
  rwa [linked'.eq_of_name found unique same]


/-- Two files of a generated pool, one of which imports the other, as the library serializes them. -/
def pointProto : FileDescriptorProto := ⟨"point.proto", [], [34, 7, 10, 5, 80, 111, 105, 110, 116]⟩

def pathProto : FileDescriptorProto := ⟨"path.proto", ["point.proto"], [34, 6, 10, 4, 80, 97, 116, 104]⟩

def field (key : UInt8) (content : List UInt8) : List UInt8 := key :: UInt8.ofNat content.length :: content

def encodeFile (file : FileDescriptorProto) : List UInt8 :=
  field 10 file.name.toUTF8.toList ++ (file.dependency.map fun name => field 26 name.toUTF8.toList).flatten ++
    file.definitions

def pathDesc : ProtoDesc := .mk (encodeFile pathProto) [.mk (encodeFile pointProto) []]

/-- A library for these files. -/
def twoFiles : DescriptorLibrary (List FileDescriptorProto) where
  serializeFile file := if file ∈ [pointProto, pathProto] then some (encodeFile file) else none
  parseFile bytes := ([pointProto, pathProto].find? (encodeFile · = bytes)).getD ⟨"", [], []⟩
  serializeDesc
    | .mk desc [.mk inner []] =>
      if desc = encodeFile pathProto ∧ inner = encodeFile pointProto then some (field 10 desc ++ field 18 (field 10 inner))
      else none
    | _ => none
  parseDesc bytes :=
    if bytes = field 10 (encodeFile pathProto) ++ field 18 (field 10 (encodeFile pointProto)) then pathDesc else .mk [] []
  empty := []
  findFileByName pool name := pool.find? (·.name = name)
  buildFile pool file :=
    match pool.find? (·.name = file.name) with
    | some found => if found = file then some pool else none
    | none =>
      if file.dependency.all fun name => (pool.find? (·.name = name)).isSome then some (pool ++ [file]) else none

theorem twoFiles_lawful : twoFiles.Lawful (· ∈ [pointProto, pathProto]) where
  file file bytes serialized := by
    simp only [twoFiles, Option.ite_none_right_eq_some, Option.some.injEq] at serialized
    obtain ⟨member, rfl⟩ := serialized
    obtain rfl | rfl : file = pointProto ∨ file = pathProto := by simpa using member
    all_goals decide +kernel
  desc desc bytes serialized := by
    simp only [twoFiles] at serialized
    split at serialized
    · simp only [Option.ite_none_right_eq_some, Option.some.injEq] at serialized
      obtain ⟨⟨rfl, rfl⟩, rfl⟩ := serialized
      exact if_pos rfl
    · cases serialized
  unique first second source source' same := by
    obtain rfl | rfl : first = pointProto ∨ first = pathProto := by simpa using source
    all_goals obtain rfl | rfl : second = pointProto ∨ second = pathProto := by simpa using source'
    · rfl
    · exact absurd same (by decide)
    · exact absurd same (by decide)
    · rfl
  empty _ := rfl
  again pool file there := by
    simp only [twoFiles] at there ⊢
    rw [there]
    exact if_pos rfl
  links pool file _ _ imports there := by
    simp only [twoFiles] at imports there ⊢
    rw [there]
    refine ⟨pool ++ [file], if_pos (List.all_eq_true.mpr imports), funext fun name => ?_⟩
    rw [List.find?_append]
    by_cases same : name = file.name
    · rw [same, there, Function.update_self]
      simp
    · rw [Function.update_of_ne same, List.find?_singleton, if_neg (by simpa using fun own => same own.symm)]
      simp

/-- Two threads have received the descriptor of the same type. -/
def receivedTwice : List (FactoryEvent Bool) :=
  let protoDescStr := field 10 (encodeFile pathProto) ++ field 18 (field 10 (encodeFile pointProto))
  [.registerMessage true protoDescStr, .registerMessage false protoDescStr, .buildFile true, .buildFile false,
    .buildFile false, .buildFile true]

theorem receivedTwice_registered : ∃ factory : ProtobufFactory (List FileDescriptorProto) Bool,
    run (step twoFiles) ⟨[], fun _ => none, []⟩ receivedTwice = some factory ∧
      ∃ descriptor : FileDescriptor, descriptor.Over (Found twoFiles factory.pool) ∧ descriptor.file = pathProto := by
  have point : (FileDescriptor.mk pointProto []).Over (· ∈ [pointProto, pathProto]) := .mk (by decide) rfl nofun
  have path : (FileDescriptor.mk pathProto [.mk pointProto []]).Over (· ∈ [pointProto, pathProto]) :=
    .mk (by decide) rfl fun dependency member => List.mem_singleton.mp member ▸ point
  have made : twoFiles.getDescriptorString (.mk pathProto [.mk pointProto []]) =
      some (field 10 (encodeFile pathProto) ++ field 18 (field 10 (encodeFile pointProto))) := by
    decide +kernel
  have reached : (run (step twoFiles) (⟨[], fun _ => none, []⟩ : ProtobufFactory (List FileDescriptorProto) Bool)
      receivedTwice).any (fun factory => decide (factory.answers =
        [(field 10 (encodeFile pathProto) ++ field 18 (field 10 (encodeFile pointProto)), true),
          (field 10 (encodeFile pathProto) ++ field 18 (field 10 (encodeFile pointProto)), true)])) = true := by
    decide +kernel
  obtain ⟨factory, ran, holds⟩ := (Option.any_eq_true _ _).mp reached
  have sent : ∀ thread protoDescStr, .registerMessage thread protoDescStr ∈ receivedTwice →
      Sent twoFiles (· ∈ [pointProto, pathProto]) protoDescStr := by
    intro thread protoDescStr member
    refine ⟨_, path, ?_⟩
    simp only [receivedTwice, List.mem_cons, FactoryEvent.registerMessage.injEq, reduceCtorEq, List.not_mem_nil, or_false]
      at member
    rcases member with ⟨-, rfl⟩ | ⟨-, rfl⟩ <;> exact made
  have registers := registered twoFiles_lawful sent ran
  rw [of_decide_eq_true holds] at registers
  exact ⟨factory, ran, _, ((registers _ _ List.mem_cons_self).2 _ path made).1, rfl⟩

end ProtobufFactory

end CyberRT.Message
