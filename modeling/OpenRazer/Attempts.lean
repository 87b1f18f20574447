import OpenRazer.Session

universe u

namespace OpenRazer

/-- How one exchange with the device ended. -/
inductive Attempt
  | setFailed (e : HidError)
  | getFailed (e : HidError) (reply : Frame)
  | short (got : Nat) (reply : Frame) (cut : got < 91)
  | answered (got : Nat) (reply : Frame) (complete : 91 ≤ got)

namespace Attempt

/-- The calls an exchange of `buf` makes, with what they return. -/
def events (buf : Frame) (wait : Duration) : Attempt → List Event
  | setFailed e => [.set buf (.error e)]
  | getFailed e reply => [.set buf (.ok ()), .sleep wait, .get (.error e) reply]
  | short got reply _ => [.set buf (.ok ()), .sleep wait, .get (.ok got) reply]
  | answered got reply _ => [.set buf (.ok ()), .sleep wait, .get (.ok got) reply]

/-- The complete response, decoded, if there was one. -/
def response : Attempt → Option RazerReport
  | answered _ reply _ => some (RazerReport.fromBytes reply.report)
  | _ => none

/-- The validator's complaint about a complete response. -/
def rejection (request : RazerReport) (a : Attempt) : Option ProtoError :=
  match a.response.map (checkResponse request) with
  | some (.error e) => some e
  | _ => none

def result : Attempt → Except HidError RazerReport
  | setFailed e => .error e
  | getFailed e _ => .error e
  | short got _ _ => .error (.shortRead got)
  | answered _ reply _ => .ok (RazerReport.fromBytes reply.report)

/-- The transport's own error. -/
def fault : Attempt → Option HidError
  | setFailed e | getFailed e _ => some e
  | _ => none

theorem sent_events (buf : Frame) (wait : Duration) (a : Attempt) : sent (a.events buf wait) = [buf] := by
  cases a <;> rfl

theorem rejection_eq_some {request : RazerReport} {a : Attempt} {e : ProtoError} :
    a.rejection request = some e ↔ ∃ r, a.response = some r ∧ checkResponse request r = .error e := by
  unfold rejection
  cases a.response with
  | none => simp
  | some r => cases judged : checkResponse request r <;> simp [judged]

/-- A transport fault leaves nothing to validate. -/
theorem of_fault (request : RazerReport) {a : Attempt} {e : HidError} (fault : a.fault = some e) :
    a.rejection request = none ∧ a.result = .error e := by
  cases a <;> simp_all [Attempt.fault, Attempt.rejection, Attempt.response, Attempt.result]

end Attempt

namespace Host

variable {σ : Type u} (H : Host σ)

/-- One SET, the device's wait, one GET, as far as the transport lets it get. -/
def exchange (wait : Duration) (buf : Frame) (w : σ) : Attempt × σ :=
  match H.setFeature w buf with
  | (.error e, w) => (.setFailed e, w)
  | (.ok (), w) =>
    match H.getFeature (H.sleep w wait) (Vector.replicate 91 0) with
    | (.error e, reply, w) => (.getFailed e reply, w)
    | (.ok got, reply, w) =>
      (if cut : got < 91 then .short got reply cut else .answered got reply (Nat.le_of_not_lt cut), w)

/-- The exchanges of one transaction that has `n + 1` attempts left, and the state after them. -/
def retry (request : RazerReport) (wait : Duration) (buf : Frame) : Nat → σ → List Attempt × σ
  | 0, w =>
    let here := H.exchange wait buf w
    ([here.1], here.2)
  | n + 1, w =>
    let here := H.exchange wait buf w
    if (here.1.rejection request).isSome then
      let later := retry request wait buf n (H.sleep here.2 RETRY_DELAY)
      (here.1 :: later.1, later.2)
    else ([here.1], here.2)

end Host

/-- The calls of a whole transaction: one block per attempt, the retry delay between blocks. -/
def schedule (buf : Frame) (wait : Duration) (attempts : List Attempt) : List Event :=
  [Event.sleep RETRY_DELAY].intercalate (attempts.map (Attempt.events buf wait))

theorem schedule_single (buf : Frame) (wait : Duration) (a : Attempt) :
    schedule buf wait [a] = a.events buf wait := by
  simp [schedule]

theorem schedule_cons (buf : Frame) (wait : Duration) (a : Attempt) {rest : List Attempt} (more : rest ≠ []) :
    schedule buf wait (a :: rest) = a.events buf wait ++ .sleep RETRY_DELAY :: schedule buf wait rest := by
  have more' : rest.map (Attempt.events buf wait) ≠ [] := by simpa using more
  simp [schedule, List.intercalate_cons_of_ne_nil more']

/-- A transaction sends its one buffer once per attempt. -/
theorem sent_schedule (buf : Frame) (wait : Duration) (attempts : List Attempt) :
    sent (schedule buf wait attempts) = List.replicate attempts.length buf := by
  induction attempts with
  | nil => rfl
  | cons a rest ih =>
    by_cases more : rest = []
    · subst rest
      rw [schedule_single, Attempt.sent_events]
      rfl
    · rw [schedule_cons _ _ _ more, sent_append, Attempt.sent_events]
      exact congrArg (buf :: ·) ih

namespace Host

variable {σ : Type u} {H : Host σ} {request : RazerReport} {wait : Duration} {buf : Frame}

/-- On a transport that keeps its contract every fault is an I/O error. -/
theorem Lawful.exchange_fault (law : H.Lawful) (w : σ) {e : HidError}
    (faulted : (H.exchange wait buf w).1.fault = some e) : ∃ op errno, e = .io op errno := by
  unfold exchange at faulted
  split at faulted
  · rename_i e' _ failed
    simp only [Attempt.fault, Option.some.injEq] at faulted
    obtain ⟨errno, io⟩ := law.setFeature_error (congrArg Prod.fst failed)
    exact ⟨_, errno, faulted ▸ io⟩
  · split at faulted
    · rename_i e' _ _ failed
      simp only [Attempt.fault, Option.some.injEq] at faulted
      obtain ⟨errno, io⟩ := law.getFeature_error (congrArg Prod.fst failed)
      exact ⟨_, errno, faulted ▸ io⟩
    · split at faulted <;> simp [Attempt.fault] at faulted

theorem retry_settled {n : Nat} {w : σ} (settled : ¬((H.exchange wait buf w).1.rejection request).isSome) :
    H.retry request wait buf (n + 1) w = ([(H.exchange wait buf w).1], (H.exchange wait buf w).2) := by
  simp only [retry, if_neg settled]

theorem retry_again {n : Nat} {w : σ} (rejected : ((H.exchange wait buf w).1.rejection request).isSome) :
    H.retry request wait buf (n + 1) w =
      ((H.exchange wait buf w).1 :: (H.retry request wait buf n (H.sleep (H.exchange wait buf w).2 RETRY_DELAY)).1,
        (H.retry request wait buf n (H.sleep (H.exchange wait buf w).2 RETRY_DELAY)).2) := by
  simp only [retry, if_pos rejected]

theorem retry_ne_nil (n : Nat) (w : σ) : (H.retry request wait buf n w).1 ≠ [] := by
  cases n with
  | zero => simp [retry]
  | succ n =>
    by_cases rejected : ((H.exchange wait buf w).1.rejection request).isSome
    · simp [retry_again rejected]
    · simp [retry_settled rejected]

theorem retry_length_le (n : Nat) (w : σ) : (H.retry request wait buf n w).1.length ≤ n + 1 := by
  induction n generalizing w with
  | zero => simp [retry]
  | succ n ih =>
    by_cases rejected : ((H.exchange wait buf w).1.rejection request).isSome
    · rw [retry_again rejected]
      exact Nat.succ_le_succ (ih _)
    · rw [retry_settled rejected]
      simp

/-- What holds of every exchange holds of every attempt of a transaction. -/
theorem retry_forall {P : Attempt → Prop} (each : ∀ w, P (H.exchange wait buf w).1) (n : Nat) (w : σ) :
    ∀ a ∈ (H.retry request wait buf n w).1, P a := by
  induction n generalizing w with
  | zero => simpa [retry] using each w
  | succ n ih =>
    by_cases rejected : ((H.exchange wait buf w).1.rejection request).isSome
    · rw [retry_again rejected]
      intro a member
      rcases List.mem_cons.mp member with rfl | later
      · exact each w
      · exact ih _ a later
    · rw [retry_settled rejected]
      simpa using each w

/-- Only the last attempt can be anything but a rejected response. -/
theorem retry_rejected (n : Nat) (w : σ) :
    ∀ a ∈ (H.retry request wait buf n w).1.dropLast, (a.rejection request).isSome := by
  induction n generalizing w with
  | zero => simp [retry]
  | succ n ih =>
    by_cases rejected : ((H.exchange wait buf w).1.rejection request).isSome
    · rw [retry_again rejected, List.dropLast_cons_of_ne_nil (retry_ne_nil n _)]
      intro a member
      rcases List.mem_cons.mp member with rfl | later
      · exact rejected
      · exact ih _ a later
    · rw [retry_settled rejected]
      simp

/-- A transaction stops on a rejected response only when its attempts are used up. -/
theorem retry_exhausted (n : Nat) (w : σ) {a : Attempt}
    (last : (H.retry request wait buf n w).1.getLast? = some a) (rejected : (a.rejection request).isSome) :
    (H.retry request wait buf n w).1.length = n + 1 := by
  induction n generalizing w with
  | zero => simp [retry]
  | succ n ih =>
    by_cases again : ((H.exchange wait buf w).1.rejection request).isSome
    · rw [retry_again again] at last ⊢
      have more : (H.retry request wait buf n (H.sleep (H.exchange wait buf w).2 RETRY_DELAY)).1 ≠ [] :=
        retry_ne_nil n _
      rw [List.getLast?_cons_of_ne_nil more] at last
      exact congrArg (· + 1) (ih _ last)
    · rw [retry_settled again] at last
      simp only [List.getLast?_singleton, Option.some.injEq] at last
      subst a
      exact absurd rejected again

/-- The recorder hears the calls of an exchange, and changes nothing else about it. -/
theorem exchange_recorded (wait : Duration) (buf : Frame) (w : σ) (log : List Event) :
    H.recorded.exchange wait buf (w, log) =
      let here := H.exchange wait buf w
      (here.1, here.2, log ++ here.1.events buf wait) := by
  unfold exchange
  simp only [recorded]
  rcases H.setFeature w buf with ⟨e | _, w₁⟩
  · rfl
  · simp only
    rcases H.getFeature (H.sleep w₁ wait) (Vector.replicate 91 0) with ⟨e | got, reply, w₂⟩
    · simp [Attempt.events]
    · by_cases cut : got < 91 <;> simp [Attempt.events, cut]

/-- So for all the tries of a transaction. -/
theorem retry_recorded (n : Nat) (w : σ) (log : List Event) :
    H.recorded.retry request wait buf n (w, log) =
      let played := H.retry request wait buf n w
      (played.1, played.2, log ++ schedule buf wait played.1) := by
  induction n generalizing w log with
  | zero => simp only [retry, exchange_recorded, schedule_single]
  | succ n ih =>
    by_cases rejected : ((H.exchange wait buf w).1.rejection request).isSome
    · have again : ((H.recorded.exchange wait buf (w, log)).1.rejection request).isSome := by
        rwa [exchange_recorded]
      have paused : H.recorded.sleep (H.recorded.exchange wait buf (w, log)).2 RETRY_DELAY =
          (H.sleep (H.exchange wait buf w).2 RETRY_DELAY,
            log ++ (H.exchange wait buf w).1.events buf wait ++ [.sleep RETRY_DELAY]) := by
        rw [exchange_recorded]
        rfl
      rw [retry_again again, retry_again rejected, paused, ih, exchange_recorded]
      simp only [schedule_cons buf wait _ (retry_ne_nil n _), List.append_assoc, List.singleton_append]
    · have settled : ¬((H.recorded.exchange wait buf (w, log)).1.rejection request).isSome := by
        rwa [exchange_recorded]
      rw [retry_settled settled, retry_settled rejected, exchange_recorded]
      simp only [schedule_single]

end Host

end OpenRazer
