import Mathlib.Data.List.Induction
import Mathlib.Data.List.Nodup
import CyberRT.Parameter.ParameterServer

namespace CyberRT.Parameter

open Execution Services

namespace ParamMap

theorem find_assign (paramMap : ParamMap) (param : Param) (name : String) :
    (paramMap.assign param).find name = if param.name = name then some param else paramMap.find name := by
  have others : (paramMap.filter fun other => other.name ≠ param.name).find? (fun other => other.name = name) =
      if param.name = name then none else paramMap.find? fun other => other.name = name := by
    rw [List.find?_filter]
    split
    · rename_i same
      simp [same]
    · rename_i differs
      congr 1
      funext other
      by_cases here : other.name = name
      · simp [here, Ne.symm differs]
      · simp [here]
  unfold ParamMap.find assign
  rw [List.find?_append, others]
  split
  · rename_i same
    simp [same]
  · rename_i differs
    simp [differs]

theorem nodup_assign {paramMap : ParamMap} (distinct : (paramMap.map Param.name).Nodup) (param : Param) :
    ((paramMap.assign param).map Param.name).Nodup := by
  unfold assign
  rw [List.map_append, List.nodup_append]
  refine ⟨distinct.sublist (List.filter_sublist.map _), by simp, ?_⟩
  intro name member other last
  obtain ⟨found, kept, rfl⟩ := List.mem_map.mp member
  rw [List.map_singleton, List.mem_singleton] at last
  rw [last]
  exact of_decide_eq_true (List.mem_filter.mp kept).2

/-- With one parameter of each name, the map holds what `find` finds. -/
theorem mem_iff_find {paramMap : ParamMap} (distinct : (paramMap.map Param.name).Nodup) (param : Param) :
    param ∈ paramMap ↔ paramMap.find param.name = some param := by
  unfold ParamMap.find
  constructor
  · intro member
    induction paramMap with
    | nil => cases member
    | cons head rest ih =>
      rw [List.map_cons, List.nodup_cons] at distinct
      rcases List.mem_cons.mp member with rfl | member
      · simp
      · have differs : head.name ≠ param.name := fun same =>
          distinct.1 (same ▸ List.mem_map_of_mem member)
        rw [List.find?_cons_of_neg (by simp [differs])]
        exact ih distinct.2 member
  · exact List.mem_of_find?_eq_some

end ParamMap

/-- A call of a client, known by the number of its request. -/
inductive Call where
  | getParameter (number : Nat)
  | setParameter (number : Nat)
  | listParameters (number : Nat)
  deriving DecidableEq

/-- The call that a service takes the request of into its queue. -/
def received {ClientName Identity : Type} : ParameterEvent ClientName Identity → Option Call
  | .getParameter event => (Rpc.received event).map .getParameter
  | .setParameter event => (Rpc.received event).map .setParameter
  | .listParameters event => (Rpc.received event).map .listParameters
  | _ => none

namespace Entry

/-- The call that the handler has answered. -/
def call : Entry → Option Call
  | .getParameter call _ _ => some (.getParameter call)
  | .setParameter call _ _ => some (.setParameter call)
  | .listParameters call _ _ => some (.listParameters call)
  | _ => none

/-- The parameter that the handler has stored. -/
def stored : Entry → Option Param
  | .setParameter _ param _ | .serverSet param => some param
  | _ => none

end Entry

/-- The parameter of the last one of the handlers that has stored one with the name. -/
def lastStored (log : List Entry) (name : String) : Option Param :=
  (log.filterMap Entry.stored).reverse.find? fun param => param.name = name

theorem lastStored_snoc (log : List Entry) (entry : Entry) (name : String) :
    lastStored (log ++ [entry]) name =
      (entry.stored.filter fun param => param.name = name).or (lastStored log name) := by
  unfold lastStored
  rw [List.filterMap_append, List.reverse_append, List.find?_append]
  cases written : entry.stored with
  | none => simp [written]
  | some param => by_cases same : param.name = name <;> simp [written, same, Option.filter]

theorem lastStored_name {log : List Entry} {name : String} {param : Param} (last : lastStored log name = some param) :
    param.name = name := of_decide_eq_true (List.find?_some last :)

/-- The handler that has stored the last parameter of a name. -/
theorem lastStored_of_mem {log : List Entry} {entry : Entry} (member : entry ∈ log) (param : Param)
    (stored : entry.stored = some param) : ∃ last, lastStored log param.name = some last ∧
      ∃ before storing after, log = before ++ storing :: after ∧ storing.stored = some last ∧
        (entry ∈ before ∨ entry = storing) ∧ ∀ other ∈ after, ∀ param' ∈ other.stored, param'.name ≠ param.name := by
  induction log using List.reverseRecOn with
  | nil => cases member
  | append_singleton log head ih =>
    rw [lastStored_snoc]
    by_cases same : ∃ newer, head.stored = some newer ∧ newer.name = param.name
    · obtain ⟨newer, writes, named⟩ := same
      refine ⟨newer, by simp [writes, named, Option.filter], log, head, [], rfl, writes, ?_, by simp⟩
      simpa using member
    · have older : head.stored.filter (fun other => decide (other.name = param.name)) = none := by
        cases writes : head.stored with
        | none => rfl
        | some newer =>
          have differs : newer.name ≠ param.name := fun named => same ⟨newer, writes, named⟩
          simp [Option.filter, differs]
      have earlier : entry ∈ log := by
        refine (List.mem_append.mp member).resolve_right fun last => ?_
        obtain rfl := List.mem_singleton.mp last
        exact same ⟨param, stored, rfl⟩
      obtain ⟨last, found, before, storing, after, rfl, writes, place, others⟩ := ih earlier
      refine ⟨last, by rw [older, Option.none_or, found], before, storing, after ++ [head], by simp, writes, place, ?_⟩
      intro other here param' writes' named
      rcases List.mem_append.mp here with between | last
      · exact others other between param' writes' named
      · obtain rfl := List.mem_singleton.mp last
        exact same ⟨param', writes', named⟩

/-- Exactly the last stored parameters, one for each name. -/
def Lists (log : List Entry) (params : List Param) : Prop :=
  (params.map Param.name).Nodup ∧ ∀ param, param ∈ params ↔ lastStored log param.name = some param

/-- What a store that is used by one caller at a time answers behind the handlers of the log. -/
def Fits (log : List Entry) : Entry → Prop
  | .getParameter _ name response => response = (lastStored log name).getD {}
  | .setParameter _ _ response => response = true
  | .listParameters _ _ response => Lists log response
  | .serverGet name found => found = lastStored log name
  | .serverSet _ => True
  | .serverList params => Lists log params

/-- The log is the history of such a store. -/
def Sequential (log : List Entry) : Prop :=
  ∀ before entry after, log = before ++ entry :: after → Fits before entry

theorem Sequential.snoc {log : List Entry} {entry : Entry} (sequential : Sequential log) (fits : Fits log entry) :
    Sequential (log ++ [entry]) := by
  intro before other after same
  rcases List.eq_nil_or_concat after with rfl | ⟨rest, last, rfl⟩
  · obtain ⟨rfl, heads⟩ := List.append_inj' same rfl
    exact List.cons.inj heads |>.1 ▸ fits
  · rw [List.concat_eq_append, ← List.cons_append, ← List.append_assoc] at same
    obtain ⟨rfl, -⟩ := List.append_inj' same rfl
    exact sequential before other rest rfl

namespace ParameterServer

variable {ClientName Identity : Type} {server middle next final : ParameterServer ClientName Identity}

/-- A callback has answered the call with that response. -/
def Answered (server : ParameterServer ClientName Identity) : Entry → Prop
  | .getParameter call name response => ⟨call, name, response⟩ ∈ server.getParameter.answers
  | .setParameter call param response => ⟨call, param, response⟩ ∈ server.setParameter.answers
  | .listParameters call node response => ⟨call, node, response⟩ ∈ server.listParameters.answers
  | _ => False

/-- The client of the call has that response. -/
def Returned (server : ParameterServer ClientName Identity) : Entry → Prop
  | .getParameter call name response => server.getParameter.Returned call name response
  | .setParameter call param response => server.setParameter.Returned call param response
  | .listParameters call node response => server.listParameters.Returned call node response
  | _ => False

/-- The request of the call has been sent. -/
def Sent (server : ParameterServer ClientName Identity) : Entry → Prop
  | .getParameter call _ _ => call < server.getParameter.requests.length
  | .setParameter call _ _ => call < server.setParameter.requests.length
  | .listParameters call _ _ => call < server.listParameters.requests.length
  | _ => True

/-- The requests that wait for a callback. -/
def queued (server : ParameterServer ClientName Identity) : List Call :=
  ((server.getParameter.service ()).tasks.map Task.number).map .getParameter ++
    ((server.setParameter.service ()).tasks.map Task.number).map .setParameter ++
    ((server.listParameters.service ()).tasks.map Task.number).map .listParameters

structure Sound (server : ParameterServer ClientName Identity) : Prop where
  getParameter : server.getParameter.Correlated
  setParameter : server.setParameter.Correlated
  listParameters : server.listParameters.Correlated
  find : ∀ name, server.paramMap.find name = lastStored server.log name
  distinct : (server.paramMap.map Param.name).Nodup
  sequential : Sequential server.log
  answered : ∀ entry, server.Answered entry → entry ∈ server.log
  sent : ∀ entry ∈ server.log, server.Sent entry

theorem sound_start : ({} : ParameterServer ClientName Identity).Sound where
  getParameter := Rpc.correlated_start
  setParameter := Rpc.correlated_start
  listParameters := Rpc.correlated_start
  find := fun _ => rfl
  distinct := List.nodup_nil
  sequential := by simp [Sequential]
  answered := by
    intro entry answered
    cases entry <;> cases answered
  sent := by simp

/-- A list of all parameters in any order is what a sequential store gives. -/
theorem Sound.lists (sound : server.Sound) {params : List Param} (perm : params.Perm server.paramMap) :
    Lists server.log params := by
  refine ⟨(perm.map Param.name).nodup_iff.mpr sound.distinct, fun param => ?_⟩
  rw [perm.mem_iff, ParamMap.mem_iff_find sound.distinct, sound.find]

/-- One step, with the handler that has run in it, if any. -/
theorem Sound.extend (sound : server.Sound) (entry : Option Entry) (log : next.log = server.log ++ entry.toList)
    (getParameter : next.getParameter.Correlated) (setParameter : next.setParameter.Correlated)
    (listParameters : next.listParameters.Correlated) (fits : ∀ new ∈ entry, Fits server.log new)
    (paramMap : next.paramMap = ((entry.bind Entry.stored).map server.paramMap.assign).getD server.paramMap)
    (answered : ∀ other, next.Answered other → server.Answered other ∨ entry = some other)
    (kept : ∀ other, server.Sent other → next.Sent other) (sent : ∀ new ∈ entry, next.Sent new) : next.Sound := by
  refine ⟨getParameter, setParameter, listParameters, ?_, ?_, ?_, ?_, ?_⟩
  · intro name
    rw [paramMap, log]
    cases entry with
    | none => simpa using sound.find name
    | some new =>
      rw [Option.toList_some, lastStored_snoc, Option.bind_some]
      cases new.stored with
      | none => simpa using sound.find name
      | some param =>
        rw [Option.map_some, Option.getD_some, ParamMap.find_assign, sound.find]
        by_cases same : param.name = name <;> simp [same, Option.filter]
  · rw [paramMap]
    cases entry.bind Entry.stored with
    | none => exact sound.distinct
    | some param => exact ParamMap.nodup_assign sound.distinct param
  · rw [log]
    cases entry with
    | none => simpa using sound.sequential
    | some new => exact sound.sequential.snoc (fits new rfl)
  · intro other here
    rw [log]
    rcases answered other here with before | rfl
    · exact List.mem_append_left _ (sound.answered other before)
    · simp
  · intro other member
    rw [log] at member
    rcases List.mem_append.mp member with before | last
    · exact kept other (sound.sent other before)
    · exact sent other (Option.mem_toList.mp last)

/-- A handler that the services have no part in, or that has a caller of its own. -/
theorem Sound.runs (sound : server.Sound) (entry : Entry) {paramMap : ParamMap} (fits : Fits server.log entry)
    (sent : server.Sent entry) (stores : paramMap = (entry.stored.map server.paramMap.assign).getD server.paramMap) :
    { server with paramMap := paramMap, log := server.log ++ [entry] }.Sound := by
  have new : ∀ other ∈ some entry, other = entry := fun other here => (Option.some.inj here).symm
  refine sound.extend (some entry) rfl sound.getParameter sound.setParameter sound.listParameters ?_ stores ?_ ?_ ?_
  · exact fun other here => new other here ▸ fits
  · intro other answered
    cases other <;> exact Or.inl answered
  · intro other sent
    cases other <;> exact sent
  · intro other here
    obtain rfl := new other here
    cases other <;> exact sent

theorem Sound.returned (sound : server.Sound) (entry : Entry) (returned : server.Returned entry) : entry ∈ server.log := by
  apply sound.answered
  cases entry with
  | getParameter call name response => exact sound.getParameter.returned returned
  | setParameter call param response => exact sound.setParameter.returned returned
  | listParameters call node response => exact sound.listParameters.returned returned
  | _ => cases returned

variable [DecidableEq ClientName] [DecidableEq Identity] {event : ParameterEvent ClientName Identity}

/-- The handler that has run in a step. -/
def handled (server : ParameterServer ClientName Identity) : ParameterEvent ClientName Identity → Option Entry
  | .getParameter event => (server.getParameter.callback event).map fun answer =>
    .getParameter answer.number answer.request answer.response
  | .setParameter event => (server.setParameter.callback event).map fun answer =>
    .setParameter answer.number answer.request answer.response
  | .listParameters event => (server.listParameters.callback event).map fun answer =>
    .listParameters answer.number answer.request answer.response
  | .serverGet name => some (.serverGet name (server.paramMap.find name))
  | .serverSet param => some (.serverSet param)
  | .serverList params => some (.serverList params)

/-- What a step of one of the services does, whose callback is either not called or has responded. -/
theorem served {Request Response After : Type} {rpc : Rpc ClientName Unit Identity Request Response} {after : After}
    {event : RpcEvent ClientName Unit Identity Request Response}
    {quiet : Rpc ClientName Unit Identity Request Response → After}
    {respond : Rpc ClientName Unit Identity Request Response → Answer Request Response → Option After}
    (taken : ((rpc.step event).bind fun rpc' => (rpc.callback event).elim (some (quiet rpc')) (respond rpc')) = some after) :
    ∃ rpc', rpc.step event = some rpc' ∧ (rpc.callback event = none ∧ after = quiet rpc' ∨
      ∃ answer, rpc.callback event = some answer ∧ respond rpc' answer = some after) := by
  obtain ⟨rpc', stepped, taken⟩ := Option.bind_eq_some_iff.mp taken
  refine ⟨rpc', stepped, ?_⟩
  cases called : rpc.callback event with
  | none =>
    rw [called] at taken
    exact Or.inl ⟨rfl, (Option.some.inj taken).symm⟩
  | some answer =>
    rw [called] at taken
    exact Or.inr ⟨answer, rfl, taken⟩

theorem step_getParameter {event : RpcEvent ClientName Unit Identity String Param}
    (taken : server.step (.getParameter event) = some next) : ∃ rpc, server.getParameter.step event = some rpc ∧
      (∀ answer ∈ server.getParameter.callback event, answer.response = server.getCallback answer.request) ∧
      next = { server with
        getParameter := rpc
        log := server.log ++ (server.handled (.getParameter event)).toList } := by
  simp only [handled]
  rcases served taken with ⟨rpc, stepped, ⟨called, rfl⟩ | ⟨answer, called, responded⟩⟩
  · exact ⟨rpc, stepped, by simp [called], by simp [called]⟩
  · obtain ⟨same, stored⟩ := Option.ite_none_right_eq_some.mp responded
    obtain rfl := Option.some.inj stored
    exact ⟨rpc, stepped, by simpa [called, getCallback] using same, by simp [called]⟩

theorem step_setParameter {event : RpcEvent ClientName Unit Identity Param Bool}
    (taken : server.step (.setParameter event) = some next) : ∃ rpc, server.setParameter.step event = some rpc ∧
      (∀ answer ∈ server.setParameter.callback event, answer.response = true) ∧
      next = { server with
        setParameter := rpc
        paramMap := ((server.setParameter.callback event).map fun answer =>
          server.paramMap.assign answer.request).getD server.paramMap
        log := server.log ++ (server.handled (.setParameter event)).toList } := by
  simp only [handled]
  rcases served taken with ⟨rpc, stepped, ⟨called, rfl⟩ | ⟨answer, called, responded⟩⟩
  · exact ⟨rpc, stepped, by simp [called], by simp [called]⟩
  · obtain ⟨same, stored⟩ := Option.ite_none_right_eq_some.mp responded
    obtain rfl := Option.some.inj stored
    exact ⟨rpc, stepped, by simpa [called] using same, by simp [called]⟩

theorem step_listParameters {event : RpcEvent ClientName Unit Identity String (List Param)}
    (taken : server.step (.listParameters event) = some next) : ∃ rpc, server.listParameters.step event = some rpc ∧
      (∀ answer ∈ server.listParameters.callback event, answer.response.Perm server.paramMap) ∧
      next = { server with
        listParameters := rpc
        log := server.log ++ (server.handled (.listParameters event)).toList } := by
  simp only [handled]
  rcases served taken with ⟨rpc, stepped, ⟨called, rfl⟩ | ⟨answer, called, responded⟩⟩
  · exact ⟨rpc, stepped, by simp [called], by simp [called]⟩
  · obtain ⟨same, stored⟩ := Option.ite_none_right_eq_some.mp responded
    obtain rfl := Option.some.inj stored
    exact ⟨rpc, stepped, by simpa [called] using same, by simp [called]⟩

/-- A step of one of the services keeps what has been sent. -/
theorem lt_of_grown {Message : Type} {before after : List Message} (grown : ∃ new, after = before ++ new) {call : Nat}
    (sent : call < before.length) : call < after.length := by
  obtain ⟨new, rfl⟩ := grown
  rw [List.length_append]
  omega

theorem Sound.step (sound : server.Sound) (fresh : server.FreshIdentity event)
    (taken : server.step event = some next) : next.Sound := by
  cases event with
  | getParameter event =>
    obtain ⟨rpc, stepped, responds, rfl⟩ := step_getParameter taken
    obtain ⟨grown, answers⟩ := Rpc.step_kept stepped
    refine sound.extend _ rfl (sound.getParameter.step fresh stepped) sound.setParameter sound.listParameters ?_ ?_ ?_ ?_ ?_
    · intro new here
      obtain ⟨answer, called, rfl⟩ := Option.map_eq_some_iff.mp here
      rw [Fits, responds answer called, getCallback, sound.find]
    · cases called : server.getParameter.callback event <;> simp [handled, called, Entry.stored]
    · intro other answered
      cases other with
      | getParameter call name response =>
        refine (answers _ answered).imp id fun called => ?_
        simp [handled, called]
      | setParameter | listParameters => exact Or.inl answered
      | serverGet | serverSet | serverList => cases answered
    · intro other sent
      cases other with
      | getParameter call name response => exact lt_of_grown grown sent
      | _ => exact sent
    · intro new here
      obtain ⟨answer, called, rfl⟩ := Option.map_eq_some_iff.mp here
      exact lt_of_grown grown (sound.getParameter.callback_sent called)
  | setParameter event =>
    obtain ⟨rpc, stepped, responds, rfl⟩ := step_setParameter taken
    obtain ⟨grown, answers⟩ := Rpc.step_kept stepped
    refine sound.extend _ rfl sound.getParameter (sound.setParameter.step fresh stepped) sound.listParameters ?_ ?_ ?_ ?_ ?_
    · intro new here
      obtain ⟨answer, called, rfl⟩ := Option.map_eq_some_iff.mp here
      exact responds answer called
    · cases called : server.setParameter.callback event <;> simp [handled, called, Entry.stored]
    · intro other answered
      cases other with
      | setParameter call param response =>
        refine (answers _ answered).imp id fun called => ?_
        simp [handled, called]
      | getParameter | listParameters => exact Or.inl answered
      | serverGet | serverSet | serverList => cases answered
    · intro other sent
      cases other with
      | setParameter call param response => exact lt_of_grown grown sent
      | _ => exact sent
    · intro new here
      obtain ⟨answer, called, rfl⟩ := Option.map_eq_some_iff.mp here
      exact lt_of_grown grown (sound.setParameter.callback_sent called)
  | listParameters event =>
    obtain ⟨rpc, stepped, responds, rfl⟩ := step_listParameters taken
    obtain ⟨grown, answers⟩ := Rpc.step_kept stepped
    refine sound.extend _ rfl sound.getParameter sound.setParameter (sound.listParameters.step fresh stepped) ?_ ?_ ?_ ?_ ?_
    · intro new here
      obtain ⟨answer, called, rfl⟩ := Option.map_eq_some_iff.mp here
      exact sound.lists (responds answer called)
    · cases called : server.listParameters.callback event <;> simp [handled, called, Entry.stored]
    · intro other answered
      cases other with
      | listParameters call node response =>
        refine (answers _ answered).imp id fun called => ?_
        simp [handled, called]
      | getParameter | setParameter => exact Or.inl answered
      | serverGet | serverSet | serverList => cases answered
    · intro other sent
      cases other with
      | listParameters call node response => exact lt_of_grown grown sent
      | _ => exact sent
    · intro new here
      obtain ⟨answer, called, rfl⟩ := Option.map_eq_some_iff.mp here
      exact lt_of_grown grown (sound.listParameters.callback_sent called)
  | serverGet name =>
    obtain rfl := Option.some.inj taken
    exact sound.runs (.serverGet name (server.paramMap.find name)) (sound.find name) trivial rfl
  | serverSet param =>
    obtain rfl := Option.some.inj taken
    exact sound.runs (.serverSet param) trivial trivial rfl
  | serverList params =>
    obtain ⟨perm, listed⟩ := Option.ite_none_right_eq_some.mp taken
    obtain rfl := Option.some.inj listed
    exact sound.runs (.serverList params) (sound.lists perm) trivial rfl

/-- Handlers only ever get added to the log. -/
theorem step_log (taken : server.step event = some next) : next.log = server.log ++ (server.handled event).toList := by
  cases event with
  | getParameter event =>
    obtain ⟨rpc, -, -, rfl⟩ := step_getParameter taken
    rfl
  | setParameter event =>
    obtain ⟨rpc, -, -, rfl⟩ := step_setParameter taken
    rfl
  | listParameters event =>
    obtain ⟨rpc, -, -, rfl⟩ := step_listParameters taken
    rfl
  | serverGet name => exact Option.some.inj taken ▸ rfl
  | serverSet param => exact Option.some.inj taken ▸ rfl
  | serverList params =>
    obtain ⟨-, listed⟩ := Option.ite_none_right_eq_some.mp taken
    exact Option.some.inj listed ▸ rfl

theorem run_log {events : List (ParameterEvent ClientName Identity)} (ran : run step server events = some final) :
    ∃ rest, final.log = server.log ++ rest := by
  apply run_invariant (fun reached _ => ∃ rest, reached.log = server.log ++ rest) _ ⟨[], (List.append_nil _).symm⟩ ran
  intro reached past event next taken ⟨rest, log⟩
  exact ⟨rest ++ (reached.handled event).toList, by rw [step_log taken, log, List.append_assoc]⟩

theorem sound_run {events : List (ParameterEvent ClientName Identity)} (fresh : Meets step FreshIdentity {} events)
    (ran : run step {} events = some server) : server.Sound :=
  Meets.preserves Sound (fun _ _ _ fresh taken sound => sound.step fresh taken) sound_start fresh ran

theorem queued_step (taken : server.step event = some next) (call : Call) :
    (((server.handled event).bind Entry.call).toList ++ next.queued).count call ≤
      (server.queued ++ (received event).toList).count call := by
  cases event with
  | getParameter event =>
    obtain ⟨rpc, stepped, -, rfl⟩ := step_getParameter taken
    have moved := ((Rpc.step_tasks stepped).map Call.getParameter).count_le call
    simp only [handled, received, queued, List.count_append, List.map_append, Option.toList_map] at moved ⊢
    cases called : server.getParameter.callback event <;> simp [called, Entry.call] at moved ⊢ <;> omega
  | setParameter event =>
    obtain ⟨rpc, stepped, -, rfl⟩ := step_setParameter taken
    have moved := ((Rpc.step_tasks stepped).map Call.setParameter).count_le call
    simp only [handled, received, queued, List.count_append, List.map_append, Option.toList_map] at moved ⊢
    cases called : server.setParameter.callback event <;> simp [called, Entry.call] at moved ⊢ <;> omega
  | listParameters event =>
    obtain ⟨rpc, stepped, -, rfl⟩ := step_listParameters taken
    have moved := ((Rpc.step_tasks stepped).map Call.listParameters).count_le call
    simp only [handled, received, queued, List.count_append, List.map_append, Option.toList_map] at moved ⊢
    cases called : server.listParameters.callback event <;> simp [called, Entry.call] at moved ⊢ <;> omega
  | serverGet name => exact Option.some.inj taken ▸ by simp [handled, Entry.call, received, queued]
  | serverSet param => exact Option.some.inj taken ▸ by simp [handled, Entry.call, received, queued]
  | serverList params =>
    obtain ⟨-, listed⟩ := Option.ite_none_right_eq_some.mp taken
    exact Option.some.inj listed ▸ by simp [handled, Entry.call, received, queued]

/-- Every handler that has run for a call has taken one of the call's requests. -/
theorem handled_once {events : List (ParameterEvent ClientName Identity)} (ran : run step {} events = some server)
    (call : Call) :
    (server.log.filterMap Entry.call ++ server.queued).count call ≤ (events.filterMap received).count call := by
  apply run_invariant (fun server past =>
    (server.log.filterMap Entry.call ++ server.queued).count call ≤ (past.filterMap received).count call) _ _ ran
  · intro server past event next taken bound
    have moved := queued_step taken call
    have heads : ∀ entry : Option Entry, entry.toList.filterMap Entry.call = (entry.bind Entry.call).toList := by
      intro entry
      cases entry with
      | none => rfl
      | some entry => cases new : entry.call <;> simp [new]
    rw [step_log taken, List.filterMap_append, List.filterMap_append, heads]
    have last : [event].filterMap received = (received event).toList := by cases new : received event <;> simp [new]
    rw [last]
    simp only [List.count_append] at bound moved ⊢
    omega
  · exact Nat.zero_le _

/-- The log is the history of a store with one caller at a time; a call that has returned its response is in it, and one
    that was sent only after another had returned stands behind it. If no request is delivered twice, no call is in it
    twice. -/
theorem calls_linearizable {past later : List (ParameterEvent ClientName Identity)}
    (fresh : Meets step FreshIdentity {} past) (ran : run step {} past = some middle)
    (fresh' : Meets step FreshIdentity middle later) (goes : run step middle later = some final) :
    (∃ rest, final.log = middle.log ++ rest ∧ Sequential final.log ∧
      (∀ entry, middle.Returned entry → entry ∈ middle.log) ∧
      ∀ entry, final.Returned entry → ¬ middle.Sent entry → entry ∈ rest) ∧
    (((past ++ later).filterMap received).Nodup → (final.log.filterMap Entry.call).Nodup) := by
  have before := sound_run fresh ran
  have sound : final.Sound :=
    Meets.preserves Sound (fun _ _ _ fresh taken sound => sound.step fresh taken) before fresh' goes
  obtain ⟨rest, log⟩ := run_log goes
  refine ⟨⟨rest, log, sound.sequential, before.returned, ?_⟩, ?_⟩
  · intro entry returned unsent
    have member := sound.returned entry returned
    rw [log] at member
    exact (List.mem_append.mp member).resolve_left fun earlier => unsent (before.sent entry earlier)
  · intro once
    have ranAll : run step {} (past ++ later) = some final := by rw [run_append, ran, Option.bind_some, goes]
    refine List.nodup_iff_count_le_one.mpr fun call => ?_
    have bound := handled_once ranAll call
    have one := List.nodup_iff_count_le_one.mp once call
    rw [List.count_append] at bound
    omega

def speed (value : Int64) : Param := { name := "speed", type := .int, typeName := "INT", value := .intValue value }

/-- One client sets a parameter. -/
def setSpeed : List (ParameterEvent Bool Nat) :=
  [.setParameter (.initService () (some 1) true), .getParameter (.initService () (some 1) true),
    .setParameter (.initClient false (some 2) true), .getParameter (.initClient true (some 2) true),
    .setParameter (.asyncSendRequest false (speed 3)), .setParameter (.receiveRequest () 0),
    .setParameter (.process () true), .setParameter (.handleResponse false 0)]

/-- The server sets it again while the other client asks for it. -/
def getSpeed : List (ParameterEvent Bool Nat) :=
  [.getParameter (.asyncSendRequest true "speed"), .getParameter (.receiveRequest () 0), .serverSet (speed 4),
    .getParameter (.process () (speed 4)), .serverList [speed 4], .getParameter (.handleResponse true 0)]

theorem getSpeed_runs : ∃ middle final : ParameterServer Bool Nat, run step {} setSpeed = some middle ∧
    run step middle getSpeed = some final ∧ Meets step FreshIdentity {} setSpeed ∧ Meets step FreshIdentity middle getSpeed ∧
    middle.setParameter.Returned 0 (speed 3) true ∧ middle.getParameter.requests = [] ∧
    final.getParameter.Returned 0 "speed" (speed 4) := by
  have reached : (run step {} setSpeed).any (fun middle : ParameterServer Bool Nat =>
      decide (Meets step FreshIdentity middle getSpeed ∧ middle.setParameter.Returned 0 (speed 3) true ∧
        middle.getParameter.requests.length = 0) &&
      (run step middle getSpeed).any fun final => decide (final.getParameter.Returned 0 "speed" (speed 4))) = true := by
    decide +kernel
  obtain ⟨middle, ran, reached⟩ := (Option.any_eq_true _ _).mp reached
  obtain ⟨met, reached⟩ := (Bool.and_eq_true _ _).mp reached
  obtain ⟨fresh', set, unsent⟩ := of_decide_eq_true met
  obtain ⟨final, goes, get⟩ := (Option.any_eq_true _ _).mp reached
  exact ⟨middle, final, ran, goes, by decide +kernel, fresh', set, List.eq_nil_of_length_eq_zero unsent,
    of_decide_eq_true get⟩

theorem getSpeed_linearizable : ∃ middle final : ParameterServer Bool Nat, run step {} setSpeed = some middle ∧
    run step middle getSpeed = some final ∧
    (∃ rest, final.log = middle.log ++ rest ∧ Sequential final.log ∧
      (∀ entry, middle.Returned entry → entry ∈ middle.log) ∧
      ∀ entry, final.Returned entry → ¬ middle.Sent entry → entry ∈ rest) ∧
    (((setSpeed ++ getSpeed).filterMap received).Nodup → (final.log.filterMap Entry.call).Nodup) := by
  obtain ⟨middle, final, ran, goes, fresh, fresh', -, -, -⟩ := getSpeed_runs
  exact ⟨middle, final, ran, goes, calls_linearizable fresh ran fresh' goes⟩

/-- A `GetParameter` that is called behind a `SetParameter` that has succeeded finds its parameter, or that of a later
    `SetParameter` for the same name. -/
theorem set_then_get {past later : List (ParameterEvent ClientName Identity)}
    (fresh : Meets step FreshIdentity {} past) (ran : run step {} past = some middle)
    (fresh' : Meets step FreshIdentity middle later) (goes : run step middle later = some final)
    {write read : Nat} {param : Param} {written : Bool} {found : Param}
    (set : middle.setParameter.Returned write param written) (unsent : middle.getParameter.requests.length ≤ read)
    (get : final.getParameter.Returned read param.name found) :
    ParameterClient.setParameter (some written) = true ∧
      ∃ before storing after rest, final.log = before ++ storing :: after ++ .getParameter read param.name found :: rest ∧
        storing.stored = some found ∧ found.name = param.name ∧
        (.setParameter write param written ∈ before ∨ .setParameter write param written = storing) ∧
        ∀ other ∈ after, ∀ param' ∈ other.stored, param'.name ≠ param.name := by
  obtain ⟨⟨rest, log, sequential, earlier, behind⟩, -⟩ := calls_linearizable fresh ran fresh' goes
  have stores := earlier (.setParameter write param written) set
  have reads := behind (.getParameter read param.name found) get (by simpa [Sent] using unsent)
  obtain ⟨between, rest, rfl⟩ := List.append_of_mem reads
  have succeeded : written = true := by
    obtain ⟨before, after, split⟩ := List.append_of_mem stores
    exact sequential before (.setParameter write param written) _ (by rw [log, split, List.append_assoc]; rfl)
  have answer : found = (lastStored (middle.log ++ between) param.name).getD {} :=
    sequential (middle.log ++ between) (.getParameter read param.name found) rest (by rw [log, List.append_assoc])
  obtain ⟨last, stored, before, storing, after, split, writes, place, others⟩ :=
    lastStored_of_mem (List.mem_append_left between stores) param rfl
  rw [stored, Option.getD_some] at answer
  subst answer
  refine ⟨succeeded, before, storing, after, rest, ?_, writes, lastStored_name stored, place, others⟩
  rw [log, ← List.append_assoc, split]

theorem getSpeed_found : ∃ final : ParameterServer Bool Nat, run step {} (setSpeed ++ getSpeed) = some final ∧
    ParameterClient.setParameter (some true) = true ∧
    ∃ before storing after rest, final.log = before ++ storing :: after ++ .getParameter 0 "speed" (speed 4) :: rest ∧
      storing.stored = some (speed 4) ∧ (speed 4).name = "speed" ∧
      (.setParameter 0 (speed 3) true ∈ before ∨ .setParameter 0 (speed 3) true = storing) ∧
      ∀ other ∈ after, ∀ param' ∈ other.stored, param'.name ≠ "speed" := by
  obtain ⟨middle, final, ran, goes, fresh, fresh', set, unsent, get⟩ := getSpeed_runs
  refine ⟨final, by rw [run_append, ran, Option.bind_some, goes], ?_⟩
  exact set_then_get fresh ran fresh' goes set (by simp [unsent]) get

end ParameterServer

end CyberRT.Parameter
