import Mathlib.Data.List.Induction
import PageComposer.Registry

/-!
# A registry remembers its history

A registry answers every call from the calls before it: the last registration of a name since the last clear
decides its text, the first one its place (`Registry.perform_run`). The exception are calls with names that no
message can be written about (`Registry.not_missing_of_long_number`).
-/

namespace PageComposer
namespace Registry

def Call.isClear : Call → Bool
  | .clear => true
  | _ => false

def Call.registration? : Call → Option (Text × Text)
  | .register (.text name) content => if ComponentName.isValid name then some (name, content) else none
  | _ => none

def run (history : List Call) : Registry :=
  history.foldl (fun registry call => (registry.perform call).registry) .empty

def sinceClear (history : List Call) : List Call := (history.reverse.takeWhile (!·.isClear)).reverse

def registrations (history : List Call) : List (Text × Text) :=
  (sinceClear history).filterMap Call.registration?

def lastContent? (history : List Call) : Value → Option Text
  | .text name => (registrations history).reverse.lookup name
  | _ => none

def firstNames (history : List Call) : List Text := ((registrations history).map (·.1)).eraseDups

/-- What a call is to answer after the calls so far. -/
def due (history : List Call) : Call → Except Failure Answer
  | .register name content =>
    if (Call.register name content).registration?.isSome then .ok (.name name)
    else .error (.fault (.invalidName name))
  | .get name =>
    match lastContent? history name with
    | some content => .ok (.content content)
    | none => .error (.fault (.componentNotFound name))
  | .has name => .ok (.flag (lastContent? history name).isSome)
  | .contains name => .ok (.flag (lastContent? history name).isSome)
  | .names => .ok (.names (firstNames history))
  | .count => .ok (.number (firstNames history).length)
  | .length => .ok (.number (firstNames history).length)
  | .clear => .ok .done

def dueRecords (history : List Call) (call : Call) : List Record :=
  match call.registration? with
  | none => []
  | some (name, _) =>
    (if (firstNames history).contains name then
      [⟨.warning, "Component \"".toList ++ name ++ "\" already exists, overriding".toList⟩]
    else []) ++ [⟨.debug, "Registered component: ".toList ++ name⟩]

/-- What keeps the call from being refused in words: a refusal names what was asked for. -/
def Call.obstacle? : Call → Option Value.Obstacle
  | .register name _ => name.obstacle? Value.messageRoom
  | .get name => name.obstacle? Value.messageRoom
  | _ => none

theorem obstacle?_text (s : Text) : (Value.text s).obstacle? Value.messageRoom = none := by
  simp only [Value.messageRoom, Value.obstacle?]

theorem answer_refused (registry : Registry) {f : Fault} {name : Value} (named : f.name? = some name) :
    (Reply.refused registry f).answer =
      ((name.obstacle? Value.messageRoom).map fun obstacle => .error (.defect obstacle.defect)).getD
        (.error (.fault f)) := by
  rw [Reply.refused, Fault.raise, named, Option.bind_some]
  cases name.obstacle? Value.messageRoom <;> rfl

theorem registrations_concat (history : List Call) (call : Call) :
    registrations (history ++ [call]) =
      if call.isClear then [] else registrations history ++ call.registration?.toList := by
  cases clears : call.isClear with
  | true => simp [registrations, sinceClear, clears]
  | false =>
    cases registers : call.registration? <;>
      simp [registrations, sinceClear, clears, registers]

theorem lookup_reverse_concat (entries : List (Text × Text)) (name content other : Text) :
    (entries ++ [(name, content)]).reverse.lookup other =
      if other = name then some content else entries.reverse.lookup other := by
  rw [List.reverse_append, List.reverse_singleton, List.singleton_append, List.lookup_cons]
  by_cases same : other = name
  · simp [same]
  · simp [same, show (other == name) = false by simpa using same]

theorem eraseDups_concat (names : List Text) (name : Text) :
    (names ++ [name]).eraseDups = if name ∈ names.eraseDups then names.eraseDups else names.eraseDups ++ [name] := by
  rw [List.eraseDups_append]
  by_cases known : name ∈ names <;> simp [List.removeAll, List.eraseDups_cons, known]

theorem nodup_eraseDups (names : List Text) : names.eraseDups.Nodup := by
  induction names using List.reverseRecOn with
  | nil => exact List.nodup_nil
  | append_singleton names name ih =>
    rw [eraseDups_concat]
    split
    · exact ih
    · rename_i new
      exact List.nodup_append.mpr ⟨ih, List.pairwise_singleton _ name, fun known inside _ last same =>
        new (List.eq_of_mem_singleton last ▸ same ▸ inside)⟩

structure Remembers (registry : Registry) (history : List Call) : Prop where
  content : ∀ name, registry.find? name = lastContent? history (.text name)
  names : registry.names = firstNames history

section
variable {registry : Registry} {history : List Call} {call : Call}

theorem Remembers.start : Remembers .empty [] := ⟨fun _ => rfl, rfl⟩

theorem of_registration {name content : Text} (registers : call.registration? = some (name, content)) :
    call = .register (.text name) content ∧ ComponentName.isValid name := by
  cases call with
  | register value text =>
    cases value with
    | text s =>
      simp only [Call.registration?, Option.ite_none_right_eq_some, Option.some.injEq, Prod.mk.injEq] at registers
      obtain ⟨valid, rfl, rfl⟩ := registers
      exact ⟨rfl, valid⟩
    | _ => cases registers
  | _ => cases registers

theorem perform_of_registration {name content : Text} (registers : call.registration? = some (name, content)) :
    registry.perform call =
      ⟨registry.insert name content, .ok (.name (.text name)), registry.registrationRecords name⟩ := by
  obtain ⟨rfl, valid⟩ := of_registration registers
  simp [perform, register, valid]

theorem perform_register_refused {name : Value} {content : Text}
    (refused : (Call.register name content).registration? = none) :
    registry.perform (.register name content) = .refused registry (.invalidName name) := by
  cases name with
  | text s =>
    cases valid : ComponentName.isValid s with
    | true => simp [Call.registration?, valid] at refused
    | false => simp [perform, register, valid]
  | _ => rfl

theorem registry_perform (keeps : call.isClear = false) (refused : call.registration? = none) :
    (registry.perform call).registry = registry := by
  cases call with
  | register name content => rw [perform_register_refused refused]; rfl
  | get name => rw [perform]; cases registry.get name <;> rfl
  | clear => cases keeps
  | _ => rfl

theorem Remembers.perform (remembers : Remembers registry history) :
    Remembers (registry.perform call).registry (history ++ [call]) := by
  have earlier := registrations_concat history call
  cases clears : call.isClear with
  | true =>
    obtain rfl : call = .clear := by cases call <;> first | rfl | cases clears
    rw [clears, if_pos rfl] at earlier
    exact ⟨fun name => by rw [lastContent?, earlier]; rfl, by rw [firstNames, earlier]; rfl⟩
  | false =>
    rw [clears, if_neg Bool.false_ne_true] at earlier
    cases registers : call.registration? with
    | none =>
      rw [registers, Option.toList_none, List.append_nil] at earlier
      rw [registry_perform clears registers]
      refine ⟨fun name => ?_, ?_⟩
      · rw [lastContent?, earlier]; exact remembers.content name
      · rw [firstNames, earlier]; exact remembers.names
    | some entry =>
      obtain ⟨name, content⟩ := entry
      rw [registers, Option.toList_some] at earlier
      rw [perform_of_registration registers]
      refine ⟨fun other => ?_, ?_⟩
      · rw [find?_insert, lastContent?, earlier, lookup_reverse_concat, remembers.content, lastContent?]
      · have kept : registry.components.keys = firstNames history := remembers.names
        rw [firstNames, earlier, List.map_append, List.map_singleton, eraseDups_concat]
        exact (OrderedMap.keys_assign _ _ _).trans (by rw [kept, firstNames])

theorem remembers_run (history : List Call) : Remembers (run history) history := by
  -- By induction on the history from its end: each call is made on what the calls before it left.
  induction history using List.reverseRecOn with
  | nil => exact .start
  | append_singleton earlier call remembers =>
    rw [run, List.foldl_append]
    exact remembers.perform

variable (remembers : Remembers registry history)
include remembers

theorem Remembers.contains_eq (name : Text) :
    registry.components.contains name = (lastContent? history (.text name)).isSome := by
  rw [← remembers.content]; rfl

theorem Remembers.mem_firstNames (name : Text) :
    name ∈ firstNames history ↔ (lastContent? history (.text name)).isSome := by
  rw [← remembers.names, ← remembers.contains_eq]
  exact (OrderedMap.contains_iff_mem_keys _ _).symm

theorem Remembers.has_eq (name : Value) : registry.has name = (lastContent? history name).isSome := by
  cases name with
  | text s => exact remembers.contains_eq s
  | _ => rfl

theorem Remembers.get_eq (name : Value) :
    registry.get name = ((lastContent? history name).map .ok).getD (.error (.componentNotFound name)) := by
  cases name with
  | text s => rw [← remembers.content]; rfl
  | _ => rfl

theorem Remembers.size_eq : registry.size = (firstNames history).length := by
  rw [← remembers.names]
  exact (List.length_map _).symm

theorem Remembers.records : (registry.perform call).records = dueRecords history call := by
  cases registers : call.registration? with
  | none =>
    rw [dueRecords, registers]
    cases call with
    | register name content => rw [perform_register_refused registers]; rfl
    | get name => rw [Registry.perform]; cases registry.get name <;> rfl
    | _ => rfl
  | some entry =>
    obtain ⟨name, content⟩ := entry
    rw [perform_of_registration registers, dueRecords, registers]
    simp only [registrationRecords, remembers.contains_eq, List.contains_iff_mem, remembers.mem_firstNames]

theorem Remembers.answer : (registry.perform call).answer =
    (call.obstacle?.map fun obstacle => .error (.defect obstacle.defect)).getD (due history call) := by
  cases call with
  | register name content =>
    cases registers : (Call.register name content).registration? with
    | none =>
      have refused : due history (.register name content) = .error (.fault (.invalidName name)) := by
        simp [due, registers]
      rw [perform_register_refused registers, refused]
      exact answer_refused registry rfl
    | some entry =>
      obtain ⟨named, -⟩ := of_registration registers
      obtain ⟨rfl, rfl⟩ : name = .text entry.1 ∧ content = entry.2 := by simpa using named
      rw [perform_of_registration registers, Call.obstacle?, obstacle?_text]
      simp [due, registers]
  | get name =>
    simp only [Registry.perform, remembers.get_eq, due]
    cases found : lastContent? history name with
    | none => exact answer_refused registry rfl
    | some content =>
      cases name with
      | text s => rw [Call.obstacle?, obstacle?_text]; rfl
      | _ => cases found
  | has name => simp [Registry.perform, due, Call.obstacle?, remembers.has_eq]
  | contains name => simp [Registry.perform, due, Call.obstacle?, remembers.has_eq]
  | names => simp [Registry.perform, due, Call.obstacle?, remembers.names]
  | count => simp [Registry.perform, due, Call.obstacle?, remembers.size_eq]
  | length => simp [Registry.perform, due, Call.obstacle?, remembers.size_eq]
  | clear => rfl

end

theorem due_ne_defect (history : List Call) (call : Call) (d : Defect) :
    due history call ≠ .error (.defect d) := by
  cases call with
  | register name content => simp only [due]; split <;> simp
  | get name => simp only [due]; split <;> simp
  | _ => simp [due]

/-- After every history a call has the answer and the records that are due, and the names are listed once each. -/
theorem perform_run (history : List Call) (call : Call) :
    (((run history).perform call).answer = due history call ↔ call.obstacle? = none) ∧
    (∀ obstacle, call.obstacle? = some obstacle →
      ((run history).perform call).answer = .error (.defect obstacle.defect)) ∧
    ((run history).perform call).records = dueRecords history call ∧
    (call.isClear = false → call.registration? = none →
      ((run history).perform call).registry = run history) ∧
    (firstNames history).Nodup ∧
    ∀ name, name ∈ firstNames history ↔ (lastContent? history (.text name)).isSome := by
  have remembers := remembers_run history
  refine ⟨?_, fun obstacle found => ?_, remembers.records, registry_perform, nodup_eraseDups _,
    remembers.mem_firstNames⟩
  · rw [remembers.answer]
    cases call.obstacle? with
    | none => exact iff_of_true rfl rfl
    | some obstacle => exact iff_of_false (due_ne_defect history call obstacle.defect).symm (by simp)
  · rw [remembers.answer, found, Option.map_some, Option.getD_some]

/-- A whole number of 4301 digits is no name, but the message that says so cannot be made. -/
theorem not_missing_of_long_number :
    due [] (.get (.integer (Nat.pow 10 4300))) =
      .error (.fault (.componentNotFound (.integer (Nat.pow 10 4300)))) ∧
    ((run []).perform (.get (.integer (Nat.pow 10 4300)))).answer = .error (.defect .unwritable) := by
  have long : (Value.integer (Nat.pow 10 4300)).obstacle? Value.messageRoom = some .digits := by decide +kernel
  refine ⟨rfl, ?_⟩
  show (Reply.refused .empty (.componentNotFound (.integer (Nat.pow 10 4300)))).answer = _
  rw [answer_refused .empty rfl, long]
  rfl

end Registry
end PageComposer
