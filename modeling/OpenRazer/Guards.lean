import Mathlib.Data.Nat.Bitwise
import OpenRazer.Operations

universe u

namespace OpenRazer

/-- A set contains a single flag exactly when it has its bit. -/
theorem Capabilities.contains_flag {set flag : Capabilities} {n : Nat} (single : flag.bits.toNat = 2 ^ n) :
    set.contains flag = true ↔ set.bits.toNat.testBit n = true := by
  rw [contains, beq_iff_eq, ← UInt32.toNat_inj, UInt32.toNat_and, single, Nat.and_two_pow]
  have positive : 0 < 2 ^ n := Nat.two_pow_pos n
  cases set.bits.toNat.testBit n with
  | true => simp
  | false => simpa using positive.ne

namespace Op

/-- The bit of the capability an operation needs. -/
def bit : Op → Nat
  | .setDeviceMode _ | .getDeviceMode => 0
  | .firmwareVersion => 1
  | .serial => 2
  | .setBrightness _ | .getBrightness => 3
  | .setStaticEffect _ => 4
  | .setPollRate _ | .getPollRate => 5
  | .send _ | .transactRaw _ | .transact _ => 0

def lit : Op → Bool
  | .setBrightness _ | .getBrightness | .setStaticEffect _ => true
  | _ => false

/-- Is this the setting of a rate that the entry's command family has no code for? -/
def inexpressible (entry : DeviceEntry) : Op → Prop
  | .setPollRate rate => entry.pollRateKind = .legacy ∧ rate.legacyCode = none
  | _ => False

/-- The device has the capability, the LED is one the commands know, and the rate has a code. -/
structure Permitted (entry : DeviceEntry) (op : Op) : Prop where
  capable : entry.capabilities.bits.toNat.testBit op.bit = true
  known : op.lit = true → entry.defaultLed ∈ [0x00, 0x01, 0x04, 0x05]
  expressible : ¬op.inexpressible entry

/-- How an operation that is not permitted is refused: the first guard that objects gives the reason. -/
def RefusedWith (entry : DeviceEntry) (op : Op) (e : HidError) : Prop :=
  if ¬entry.capabilities.bits.toNat.testBit op.bit = true then ∃ what, e = .unsupported entry.pid what
  else if op.lit = true ∧ entry.defaultLed ∉ [0x00, 0x01, 0x04, 0x05] then e = .unsupported entry.pid "this LED id"
  else ∃ p, e = .proto p

variable {entry : DeviceEntry} {op : Op} {cap : Capabilities} {what : String}

/-- Either the request is built, or a guard objects and says why. -/
def Decided (entry : DeviceEntry) (op : Op) : Prop :=
  (Permitted entry op ∧ ∃ request, op.request entry = .ok request) ∨
    ¬Permitted entry op ∧ ∃ e, op.request entry = .error e ∧ RefusedWith entry op e

/-- The capability comes first. -/
theorem decided_of_capable {asked : Except HidError RazerReport} (single : cap.bits.toNat = 2 ^ op.bit)
    (asks : op.request entry = (do allowed entry cap what; asked))
    (rest : entry.capabilities.bits.toNat.testBit op.bit = true → op.request entry = asked → Decided entry op) :
    Decided entry op := by
  rw [allowed_then] at asks
  by_cases capable : entry.capabilities.contains cap = true
  · rw [if_pos capable] at asks
    exact rest ((Capabilities.contains_flag single).mp capable) asks
  · rw [if_neg capable] at asks
    have lacking : ¬entry.capabilities.bits.toNat.testBit op.bit = true := mt (Capabilities.contains_flag single).mpr capable
    refine Or.inr ⟨fun permitted => lacking permitted.capable, _, asks, ?_⟩
    rw [RefusedWith, if_pos lacking]
    exact ⟨what, rfl⟩

theorem decided_of_plain {request : RazerReport} (single : cap.bits.toNat = 2 ^ op.bit) (unlit : op.lit = false)
    (expressible : ¬op.inexpressible entry) (asks : op.request entry = (do allowed entry cap what; return request)) :
    Decided entry op := by
  refine decided_of_capable single asks fun capable built => Or.inl ⟨⟨capable, fun lit => ?_, expressible⟩, request, built⟩
  rw [unlit] at lit
  cases lit

theorem ledOf_ok : (∃ led, ledOf entry = .ok led) ↔ entry.defaultLed ∈ [0x00, 0x01, 0x04, 0x05] := by
  unfold ledOf
  generalize entry.defaultLed = led
  split <;> simp_all

theorem decided_of_lit {make : LedId → RazerReport} (single : cap.bits.toNat = 2 ^ op.bit) (lit : op.lit = true)
    (expressible : ¬op.inexpressible entry)
    (asks : op.request entry = (do allowed entry cap what; return make (← ledOf entry))) : Decided entry op := by
  refine decided_of_capable single asks fun capable built => ?_
  by_cases known : entry.defaultLed ∈ [0x00, 0x01, 0x04, 0x05]
  · obtain ⟨led, found⟩ := ledOf_ok.mpr known
    rw [found] at built
    exact Or.inl ⟨⟨capable, fun _ => known, expressible⟩, make led, built⟩
  · refine Or.inr ⟨fun permitted => known (permitted.known lit), ?_⟩
    rcases ledOf_then entry make with ⟨led, found⟩ | unknown
    · have lightable : ∃ led, ledOf entry = .ok led := by
        cases here : ledOf entry with
        | error e =>
          rw [here] at found
          cases found
        | ok led => exact ⟨led, rfl⟩
      exact absurd (ledOf_ok.mp lightable) known
    · refine ⟨_, built.trans unknown, ?_⟩
      rw [RefusedWith, if_neg (not_not.mpr capable), if_pos ⟨lit, known⟩]

theorem decided (typed : op.typed = true) : Decided entry op := by
  cases op with
  | send _ | transactRaw _ | transact _ => cases typed
  | setDeviceMode _ | getDeviceMode | firmwareVersion | serial => exact decided_of_plain rfl rfl id rfl
  | setBrightness _ | getBrightness | setStaticEffect _ => exact decided_of_lit rfl rfl id rfl
  | setPollRate rate =>
    refine decided_of_capable rfl rfl fun capable built => ?_
    have permitted (expressible : ¬inexpressible entry (.setPollRate rate)) : Permitted entry (.setPollRate rate) :=
      ⟨capable, fun lit => (by cases lit), expressible⟩
    cases kind : entry.pollRateKind with
    | v2 =>
      rw [kind] at built
      exact Or.inl ⟨permitted fun none => (by rw [none.1] at kind; cases kind), _, built⟩
    | legacy =>
      rw [kind] at built
      cases code : rate.legacyCode with
      | none =>
        simp only [Cmd.setPollRateLegacy, code, Except.mapError] at built
        refine Or.inr ⟨fun permitted => permitted.expressible ⟨kind, code⟩, _, built, ?_⟩
        rw [RefusedWith, if_neg (not_not.mpr capable), if_neg fun both => Bool.false_ne_true both.1]
        exact ⟨_, rfl⟩
      | some byte =>
        simp only [Cmd.setPollRateLegacy, code, Except.mapError] at built
        exact Or.inl ⟨permitted fun none => (by rw [none.2] at code; cases code), _, built⟩
  | getPollRate =>
    refine decided_of_capable rfl rfl fun capable built => Or.inl ⟨⟨capable, fun lit => (by cases lit), id⟩, ?_⟩
    cases kind : entry.pollRateKind with
    | v2 | legacy =>
      rw [kind] at built
      exact ⟨_, built⟩

variable {σ : Type u}

/-- An operation reaches the transport, as a recorder in front of it hears, exactly
when every guard lets it through; otherwise nothing at all happens. -/
theorem guards_exact (H : Host σ) (typed : op.typed = true) (s : Session σ) :
    (∃ events, Session.Overheard s (op.run H s) (fun log => op.run H.recorded (s.tapped log)) events ∧
      (sent events ≠ [] ↔ Permitted s.entry op)) ∧
      (¬Permitted s.entry op → ∃ e, op.run H s = (.error e, s) ∧ RefusedWith s.entry op e) := by
  have verdict : Decided s.entry op := decided typed
  rcases verdict with ⟨permitted, request, asks⟩ | ⟨refused, e, asks, reason⟩
  · obtain ⟨positive, _⟩ := Session.exchanges_bounds H request s
    refine ⟨⟨_, run_typed_overheard typed asks, ?_⟩, fun refused => absurd permitted refused⟩
    rw [sent_schedule]
    have asked : List.replicate (Session.exchanges H request s).1.length (s.wire request) ≠ [] := by
      rw [ne_eq, List.replicate_eq_nil_iff]
      omega
    exact ⟨fun _ => permitted, fun _ => asked⟩
  · have ended {τ : Type u} (K : Host τ) (t : Session τ) (same : t.entry = s.entry) : op.run K t = (.error e, t) := by
      rw [run_typed typed, same, asks]
    refine ⟨⟨[], ?_, ?_⟩, fun _ => ⟨e, ended H s rfl, reason⟩⟩
    · rw [ended H s rfl]
      simp only [fun log => ended H.recorded (s.tapped log) rfl]
      exact Session.overheard_nothing s _
    · exact ⟨fun asked => absurd rfl asked, fun permitted => absurd permitted refused⟩

/-- A mouse whose entry has every flag, but a LED no command knows. -/
theorem guards_exact_unknown_led : ¬Permitted { TABLE[0] with defaultLed := 0x02 } .getBrightness ∧
    ∃ e, Op.getBrightness.run Mock.host (Session.new { TABLE[0] with defaultLed := 0x02 } {}) =
        (.error e, Session.new { TABLE[0] with defaultLed := 0x02 } {}) ∧
      RefusedWith { TABLE[0] with defaultLed := 0x02 } .getBrightness e := by
  have refused : ¬Permitted { TABLE[0] with defaultLed := 0x02 } .getBrightness :=
    fun permitted => absurd (permitted.known rfl) (by decide)
  exact ⟨refused, (guards_exact Mock.host (rfl : Op.getBrightness.typed = true) _).2 refused⟩

end Op

end OpenRazer
