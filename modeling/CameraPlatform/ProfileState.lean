import CameraPlatform.Base.History
import CameraPlatform.ProfileBin

/-!
# The reported state of a profile

`setState` checks the state it is given and stores the error text as it comes. The text is documented
to be empty unless the state is `error`, so it is up to the callers to keep it so.
-/

namespace CameraPlatform
open ByteString History

namespace ProfileBin

/-- The states that are accepted. -/
def wireStates : List Bytes := [proto.kStateOff, proto.kStateReady, proto.kStateLive, proto.kStateError]

/-- The branch after one call, of which the result is dropped. -/
def report (b : ProfileBin) (call : Bytes × Bytes) : ProfileBin := (b.setState call.1 call.2).2

/-- What is documented for the reported state and its error text. -/
structure Reported (b : ProfileBin) : Prop where
  state : b.profile.state ∈ wireStates
  lastError : b.profile.lastError ≠ [] → b.profile.state = proto.kStateError

/-- The error text belongs to the state it comes with. -/
def Fitting (call : Bytes × Bytes) : Prop := call.1 ∈ wireStates → call.1 ≠ proto.kStateError → call.2 = []

/-- The last of the calls that was accepted. -/
def lastAccepted (calls : List (Bytes × Bytes)) : Option (Bytes × Bytes) :=
  (calls.filter fun call => call.1 ∈ wireStates).getLast?

/-- What `setState` promises for a sequence of calls. -/
structure StateContract (b : ProfileBin) (calls : List (Bytes × Bytes)) : Prop where
  reported : Throughout report Reported b calls
  rejected : Along report (fun b call => (b.setState call.1 call.2).1 = false → b.report call = b) b calls
  accepted : ∃ state lastError, run report b calls = { b with profile := { b.profile with state, lastError } } ∧
    (state, lastError) = (lastAccepted calls).getD (b.profile.state, b.profile.lastError)

variable {b : ProfileBin}

/-- A call is refused and changes nothing, or replaces both strings. -/
theorem setState_cases (b : ProfileBin) (state lastError : Bytes) :
    state ∉ wireStates ∧ b.setState state lastError = (false, b) ∨
    state ∈ wireStates ∧
      b.setState state lastError = (true, { b with profile := { b.profile with state, lastError } }) := by
  unfold setState wireStates
  by_cases hs : state ≠ proto.kStateOff ∧ state ≠ proto.kStateReady ∧ state ≠ proto.kStateLive ∧
      state ≠ proto.kStateError
  · exact .inl ⟨by simpa using hs, if_pos hs⟩
  · refine .inr ⟨?_, if_neg hs⟩
    by_contra hmem
    exact hs (by simpa using hmem)

theorem report_rejected (b : ProfileBin) (call : Bytes × Bytes) (h : (b.setState call.1 call.2).1 = false) :
    b.report call = b := by
  rcases setState_cases b call.1 call.2 with ⟨-, heq⟩ | ⟨-, heq⟩
  · rw [report, heq]
  · rw [heq] at h; cases h

/-- After a call the state and its text go together exactly if they went together in the call. -/
theorem Reported.report_iff (h : b.Reported) (call : Bytes × Bytes) : (b.report call).Reported ↔ Fitting call := by
  unfold report Fitting
  rcases setState_cases b call.1 call.2 with ⟨hmem, heq⟩ | ⟨hmem, heq⟩
  · rw [heq]
    exact iff_of_true h fun hmem' => absurd hmem' hmem
  · rw [heq]
    constructor
    · intro hr _ hne
      by_contra herror
      exact hne (hr.lastError herror)
    · intro hf
      refine ⟨hmem, fun herror => ?_⟩
      by_contra hne
      exact herror (hf hmem hne)

variable (b) in
/-- Only the last accepted call shows. -/
theorem run_report (calls : List (Bytes × Bytes)) :
    ∃ state lastError, run report b calls = { b with profile := { b.profile with state, lastError } } ∧
      (state, lastError) = (lastAccepted calls).getD (b.profile.state, b.profile.lastError) := by
  induction calls using List.reverseRecOn with
  | nil => exact ⟨_, _, rfl, rfl⟩
  | append_singleton calls call ih =>
    obtain ⟨state, lastError, hrun, hlast⟩ := ih
    rw [run_concat, hrun, report, lastAccepted, List.filter_append]
    rcases setState_cases { b with profile := { b.profile with state, lastError } } call.1 call.2 with
      ⟨hmem, heq⟩ | ⟨hmem, heq⟩
    · rw [heq]
      refine ⟨state, lastError, rfl, ?_⟩
      rw [hlast, List.filter_cons_of_neg (by simpa using hmem), List.filter_nil, List.append_nil, lastAccepted]
    · rw [heq]
      refine ⟨call.1, call.2, rfl, ?_⟩
      rw [List.filter_cons_of_pos (by simpa using hmem), List.filter_nil, List.getLast?_concat]
      rfl

/-- `setState` keeps its promises for a sequence of calls exactly if no accepted call brings an error text with a
state other than `error`. -/
theorem setState_contract_iff (b : ProfileBin) (hstate : b.profile.state ∈ wireStates)
    (herror : b.profile.lastError = []) (calls : List (Bytes × Bytes)) :
    StateContract b calls ↔ ∀ call ∈ calls, Fitting call := by
  have hb : b.Reported := ⟨hstate, fun hne => absurd herror hne⟩
  have hiff : Throughout report Reported b calls ↔ ∀ call ∈ calls, Fitting call := by
    rw [← @along_forall _ _ report]
    exact throughout_iff_along (fun _ h => h) (fun _ call h => h.report_iff call)
      (fun _ call h hc => (h.report_iff call).mpr hc) hb calls
  rw [← hiff]
  exact ⟨fun h => h.reported, fun h => ⟨h, along_of_forall report_rejected b calls, run_report b calls⟩⟩

/-- An encoder fails and is restarted. -/
theorem setState_contract_hd :
    StateContract { profile := { name := ascii "hd" } }
        [(proto.kStateError, ascii "encoder failed"), (ascii "unknown", []), (proto.kStateReady, [])] ↔
      ∀ call ∈ [(proto.kStateError, ascii "encoder failed"), (ascii "unknown", []), (proto.kStateReady, [])],
        Fitting call :=
  setState_contract_iff _ (by decide) rfl _

/-- A text that comes with `ready` is stored. -/
theorem setState_contract_broken :
    ¬ StateContract { profile := { name := ascii "hd" } } [(proto.kStateReady, ascii "encoder failed")] := by
  intro h
  exact absurd (h.reported.run.lastError (by decide)) (by decide)

end ProfileBin

end CameraPlatform
