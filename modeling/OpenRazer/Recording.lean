import OpenRazer.Acknowledged
import OpenRazer.Library.Replay
import OpenRazer.Mock

universe u

namespace OpenRazer

/-- The transport did its part: a SET went out, a GET brought a whole buffer,
whatever is in it. -/
def Event.Healthy : Event → Prop
  | .set _ result => result = .ok ()
  | .get (.ok got) _ => 91 ≤ got
  | .get (.error _) _ => False
  | .sleep _ => True

instance : DecidablePred Event.Healthy
  | .set _ result => inferInstanceAs (Decidable (result = .ok ()))
  | .get (.ok got) _ => inferInstanceAs (Decidable (91 ≤ got))
  | .get (.error _) _ => inferInstanceAs (Decidable False)
  | .sleep _ => inferInstanceAs (Decidable True)

theorem Event.Healthy.read {result : Except HidError Nat} {buf : Frame} (healthy : (Event.get result buf).Healthy) :
    ∃ got, result = .ok got ∧ 91 ≤ got := by
  cases result with
  | ok got => exact ⟨got, rfl, healthy⟩
  | error e => exact healthy.elim

def Event.reply? : Event → Option Frame
  | .get _ buf => some buf
  | _ => none

def Event.slept? : Event → Option Duration
  | .sleep d => some d
  | _ => none

/-- The buffers that the GETs of a trace came back with, in order. -/
def replies (trace : List Event) : List Frame :=
  trace.filterMap Event.reply?

def slept (trace : List Event) : List Duration :=
  trace.filterMap Event.slept?

variable {σ : Type u} {H : Host σ}

/-- A session on the mocks that has done what the other has, with the replies
of what that one is going to see in its queue. -/
structure Mirrors (s : Session σ) (t : Session Mock) (future : List Event) : Prop where
  entry : t.entry = s.entry
  transactionId : t.transactionId = s.transactionId
  lastAttempts : t.lastAttempts = s.lastAttempts
  lastResponse : t.lastResponseTransactionId = s.lastResponseTransactionId
  unarmed : t.world.failNextSet = none
  queued : t.world.responses = replies future
  sent : t.world.sent = OpenRazer.sent s.trace
  sleeps : t.world.sleeps = slept s.trace

/-- What a test on the mocks makes of a program of a real session. -/
abbrev Replayed {α β : Type} (A : α → β → Prop) (p : SessionM σ α) (q : SessionM Mock β) : Prop :=
  Prog.Replays Session.trace Event.Healthy Mirrors A p q

namespace Replayed

open Prog.Replays

theorem setFeature (buf : Frame) : Replayed Eq (Session.setFeature H buf) (Session.setFeature Mock.host buf) := by
  intro s
  refine ⟨_, rfl, fun good t later ties => ?_⟩
  have went : (H.setFeature s.world buf).1 = .ok () := good _ (List.mem_singleton_self _)
  have taken : Mock.host.setFeature t.world buf = (.ok (), { t.world with sent := t.world.sent ++ [buf] }) := by
    simp only [Mock.host, ties.unarmed]
  simp only [Session.setFeature, taken, went]
  refine ⟨.ok rfl, { ties with queued := ?_, sent := ?_, sleeps := ?_ }⟩
  · rw [ties.queued]
    rfl
  · rw [sent_append, ties.sent]
    rfl
  · rw [slept, List.filterMap_append, ties.sleeps]
    exact (List.append_nil _).symm

theorem sleep (d : Duration) : Replayed Eq (Session.sleep H d) (Session.sleep Mock.host d) := by
  intro s
  refine ⟨_, rfl, fun good t later ties => ⟨.ok rfl, { ties with queued := ?_, sent := ?_, sleeps := ?_ }⟩⟩
  · exact ties.queued
  · have same : (Session.sleep Mock.host d t).2.world.sent = t.world.sent := rfl
    have grown : (Session.sleep H d s).2.trace = s.trace ++ [.sleep d] := rfl
    rw [same, grown, sent_append, ties.sent]
    exact (List.append_nil _).symm
  · have same : (Session.sleep Mock.host d t).2.world.sleeps = t.world.sleeps ++ [d] := rfl
    have grown : (Session.sleep H d s).2.trace = s.trace ++ [.sleep d] := rfl
    rw [same, grown, slept, List.filterMap_append, ties.sleeps]
    rfl

/-- The buffer is the same, and a count that is too short is told from the others. -/
theorem getFeature (buf : Frame) :
    Replayed (fun real fake => real.2 = fake.2 ∧ (real.1 = fake.1 ∨ 91 ≤ real.1 ∧ 91 ≤ fake.1)) (Session.getFeature H buf)
      (Session.getFeature Mock.host buf) := by
  intro s
  refine ⟨_, rfl, fun good t later ties => ?_⟩
  obtain ⟨got, read, complete⟩ := (good _ (List.mem_singleton_self _)).read
  have queue : t.world.responses = (H.getFeature s.world buf).2.1 :: replies later := ties.queued
  have popped : Mock.host.getFeature t.world buf =
      (.ok 91, (H.getFeature s.world buf).2.1, { t.world with responses := replies later }) := by
    simp only [Mock.host, queue]
  simp only [Session.getFeature, popped, read]
  refine ⟨.ok ⟨rfl, Or.inr ⟨complete, Nat.le_refl 91⟩⟩, { ties with queued := rfl, sent := ?_, sleeps := ?_ }⟩
  · rw [sent_append, ties.sent]
    exact (List.append_nil _).symm
  · rw [slept, List.filterMap_append, ties.sleeps]
    exact (List.append_nil _).symm

theorem same {α : Type} (a : α) : ∃ b, a = b :=
  ⟨a, rfl⟩

theorem entry {α : Type} (f : DeviceEntry → α) :
    Replayed (σ := σ) Eq (.read fun s => f s.entry) (.read fun s => f s.entry) :=
  read fun s t future ties => by rw [ties.entry]

theorem require (cap : Capabilities) (what : String) :
    Replayed (σ := σ) Eq (Session.require cap what) (Session.require cap what) := by
  refine bind same (entry id) ?_
  rintro entry _ rfl
  split
  · exact pure rfl
  · exact fail _

theorem led : Replayed (σ := σ) Eq Session.led Session.led := by
  refine bind same (entry id) ?_
  rintro entry _ rfl
  split
  · exact pure rfl
  · exact pure rfl
  · exact pure rfl
  · exact pure rfl
  · exact fail _

theorem send (request : RazerReport) : Replayed Eq (Session.send H request) (Session.send Mock.host request) := by
  refine bind same (lift (Prog.Agree.refl (fun _ => rfl) _)) ?_
  rintro _ _ _
  refine bind same (read fun s t future ties => ties.transactionId.symm) ?_
  rintro tid _ rfl
  refine bind same (setFeature _) ?_
  rintro _ _ _
  refine bind same (entry DeviceEntry.wait) ?_
  rintro wait _ rfl
  exact sleep wait

theorem transactRaw (request : RazerReport) :
    Replayed Eq (Session.transactRaw H request) (Session.transactRaw Mock.host request) := by
  refine bind same (send request) ?_
  rintro _ _ _
  refine bind (fun a => ⟨a, rfl, Or.inl rfl⟩) (getFeature _) ?_
  rintro ⟨got, buf⟩ ⟨got', _⟩ ⟨rfl, alike⟩
  simp only at alike ⊢
  rcases alike with rfl | ⟨whole, whole'⟩
  · split
    · exact fail _
    · exact pure rfl
  · rw [if_neg (by omega), if_neg (by omega)]
    exact pure rfl

/-- The retry loop goes by the replies alone. -/
theorem transactAttempt (request : RazerReport) (attempt : Nat) (last : Option ProtoError) :
    Replayed Eq (Session.transactAttempt H request attempt last) (Session.transactAttempt Mock.host request attempt last) := by
  refine bind same ?_ ?_
  · split
    · exact sleep RETRY_DELAY
    · exact pure rfl
  rintro _ _ _
  refine bind same (modify (fun _ => rfl) fun s t future ties => { ties with lastAttempts := rfl }) ?_
  rintro _ _ _
  refine bind same (transactRaw request) ?_
  rintro response _ rfl
  refine bind same (modify (fun _ => rfl) fun s t future ties => { ties with lastResponse := rfl }) ?_
  rintro _ _ _
  cases checkResponse request response with
  | ok _ => exact pure rfl
  | error e => exact pure rfl

theorem transact (request : RazerReport) : Replayed Eq (Session.transact H request) (Session.transact Mock.host request) := by
  refine bind same (loop (transactAttempt request) MAX_ATTEMPTS 0 none) ?_
  rintro left _ rfl
  cases left with
  | inl response => exact pure rfl
  | inr last => exact fail _

/-- A transaction whose response is dropped once it is validated. -/
theorem set (request : RazerReport) : Replayed Eq (do let _ ← Session.transact H request; pure ())
    (do let _ ← Session.transact Mock.host request; pure ()) :=
  bind same (transact request) fun _ _ _ => pure rfl

/-- A transaction whose response is parsed. -/
theorem get {α : Type} (request : RazerReport) (parse : RazerReport → Except ProtoError α) :
    Replayed Eq (do let response ← Session.transact H request; .lift ((parse response).mapError .proto))
      (do let response ← Session.transact Mock.host request; .lift ((parse response).mapError .proto)) := by
  refine bind same (transact request) ?_
  rintro response _ rfl
  exact lift (Prog.Agree.refl (fun _ => rfl) _)

theorem guarded {α : Type} (cap : Capabilities) (what : String) {p : SessionM σ α} {q : SessionM Mock α}
    (body : Replayed Eq p q) : Replayed Eq (do Session.require cap what; p) (do Session.require cap what; q) :=
  bind same (require cap what) fun _ _ _ => body

theorem lit {α : Type} {p : LedId → SessionM σ α} {q : LedId → SessionM Mock α} (body : ∀ led, Replayed Eq (p led) (q led)) :
    Replayed Eq (do let led ← Session.led; p led) (do let led ← Session.led; q led) := by
  refine bind same led ?_
  rintro led _ rfl
  exact body led

theorem op (op : Op) : Replayed Eq (op.run H) (op.run Mock.host) := by
  cases op with
  | send request => exact bind same (send request) fun _ _ _ => pure rfl
  | transactRaw request => exact bind same (transactRaw request) (by rintro r _ rfl; exact pure rfl)
  | transact request => exact bind same (transact request) (by rintro r _ rfl; exact pure rfl)
  | setDeviceMode mode => exact bind same (guarded _ _ (set _)) fun _ _ _ => pure rfl
  | getDeviceMode => exact bind same (guarded _ _ (get _ _)) (by rintro r _ rfl; exact pure rfl)
  | firmwareVersion => exact bind same (guarded _ _ (get _ _)) (by rintro r _ rfl; exact pure rfl)
  | serial => exact bind same (guarded _ _ (get _ _)) (by rintro r _ rfl; exact pure rfl)
  | setBrightness brightness => exact bind same (guarded _ _ (lit fun led => set _)) fun _ _ _ => pure rfl
  | getBrightness => exact bind same (guarded _ _ (lit fun led => get _ _)) (by rintro r _ rfl; exact pure rfl)
  | setStaticEffect rgb => exact bind same (guarded _ _ (lit fun led => set _)) fun _ _ _ => pure rfl
  | setPollRate rate =>
    refine bind same (guarded _ _ (bind same (entry DeviceEntry.pollRateKind) ?_)) fun _ _ _ => pure rfl
    rintro kind _ rfl
    cases kind with
    | v2 => exact bind same (pure rfl) (by rintro request _ rfl; exact set request)
    | legacy => exact bind same (lift (Prog.Agree.refl (fun _ => rfl) _)) (by rintro request _ rfl; exact set request)
  | getPollRate =>
    refine bind same (guarded _ _ (bind same (entry DeviceEntry.pollRateKind) ?_)) (by rintro r _ rfl; exact pure rfl)
    rintro kind _ rfl
    cases kind with
    | v2 => exact get _ _
    | legacy => exact get _ _

end Replayed

/-- The session as a test on the mocks has it: they saw what was done so far and
hold the replies of what is to come. -/
def Session.rehearsed (s : Session σ) (future : List Event) : Session Mock where
  entry := s.entry
  world := { sent := OpenRazer.sent s.trace, responses := replies future, sleeps := slept s.trace }
  transactionId := s.transactionId
  lastAttempts := s.lastAttempts
  lastResponseTransactionId := s.lastResponseTransactionId
  trace := s.trace

/-- Whatever a device answers to a run of operations, under the id of the table
or another, a test on the mocks can have it answer: it gets the same results,
sends the same frames and sleeps the same, and no reply is left over. Only a
transport that fails is out of reach. -/
theorem run_replays_on_mock (H : Host σ) (s : Session σ) (ops : List Op) (done : List Event)
    (ran : (Prog.runs (Op.run H) ops s).2.trace = s.trace ++ done) (healthy : ∀ e ∈ done, e.Healthy) :
    let real := Prog.runs (Op.run H) ops s
    let fake := Prog.runs (Op.run Mock.host) ops (s.rehearsed done)
    fake.1 = real.1 ∧ fake.2.world.sent = sent real.2.trace ∧ fake.2.world.sleeps = slept real.2.trace ∧
      fake.2.world.responses = [] ∧ fake.2.lastAttempts = real.2.lastAttempts ∧
      fake.2.lastResponseTransactionId = real.2.lastResponseTransactionId := by
  obtain ⟨events, grown, replays⟩ := Prog.Replays.runs (fun op => Replayed.op (H := H) op) ops s
  obtain rfl := List.append_cancel_left (ran.symm.trans grown)
  have ties : Mirrors s (s.rehearsed done) (done ++ []) := by
    rw [List.append_nil]
    exact ⟨rfl, rfl, rfl, rfl, rfl, rfl, rfl, rfl⟩
  obtain ⟨same, after⟩ := replays healthy _ [] ties
  exact ⟨same, after.sent, after.sleeps, after.queued, after.lastAttempts, after.lastResponse⟩

/-- The answer that came late is in the queue before the one that was taken. -/
theorem run_replays_on_mock_troubled :
    let real := Prog.runs (Op.run FlakyFile.host) [.setBrightness 0x40] (FlakyFile.troubled TABLE[2])
    let fake := Prog.runs (Op.run Mock.host) [.setBrightness 0x40] ((FlakyFile.troubled TABLE[2]).rehearsed real.2.trace)
    fake.1 = real.1 ∧ fake.2.world.sent = sent real.2.trace ∧ fake.2.world.sleeps = slept real.2.trace ∧
      fake.2.world.responses = [] ∧ fake.2.lastAttempts = real.2.lastAttempts ∧
      fake.2.lastResponseTransactionId = real.2.lastResponseTransactionId :=
  run_replays_on_mock FlakyFile.host (FlakyFile.troubled TABLE[2]) [.setBrightness 0x40]
    (Prog.runs (Op.run FlakyFile.host) [.setBrightness 0x40] (FlakyFile.troubled TABLE[2])).2.trace (List.nil_append _).symm
    (by decide +kernel)

end OpenRazer
