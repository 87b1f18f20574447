import Mathlib.Logic.Function.Basic
import OpenRazer.DriverMatch

universe u

namespace OpenRazer

namespace Recover

/-- What the recovery script sees of `/sys/bus/hid`, and the one thing it does
there. Whatever is behind it may move between two calls. -/
structure Kernel (σ : Type u) where
  /-- The names under `devices`. -/
  names : σ → List String × σ
  /-- Is there `devices/ID`? -/
  present : σ → String → Bool × σ
  /-- Is there `devices/ID/driver`? -/
  hasDriver : σ → String → Bool × σ
  /-- Write the id to `drivers/hid-generic/bind`. -/
  bind : σ → String → Bool × σ
  /-- `readlink -f devices/ID/driver`. -/
  readlink : σ → String → Option SysPath × σ

inductive Call
  | present (id : String) (there : Bool)
  | hasDriver (id : String) (bound : Bool)
  | bind (id : String) (ok : Bool)
deriving DecidableEq

/-- `calls` is not in the source: it records the calls of the loop that binds. -/
structure Run (σ : Type u) where
  world : σ
  calls : List Call
  lines : List String
  rebound : Nat

/-- Does `*:1532:*` match the name? -/
def matchesRazer (name : String) : Prop :=
  name.toList.head? ≠ some '.' ∧ ":1532:".toList <:+: name.toList

instance : DecidablePred matchesRazer :=
  fun _ => inferInstanceAs (Decidable (_ ∧ _))

/-- The names that a loop over the pattern goes through, in the order of the
locale. A pattern that matches nothing stands for itself. -/
def glob (collate : List String → List String) (names : List String) : List String :=
  match names.filter matchesRazer with
  | [] => ["*:1532:*"]
  | found => collate found

def line (text : String) : String :=
  "[razer-recover] " ++ text

namespace Run
variable {σ : Type u} (k : Kernel σ) (collate : List String → List String)

def log (r : Run σ) (text : String) : Run σ :=
  { r with lines := r.lines ++ [line text] }

/-- One turn of the loop that binds what is bound to nothing. -/
def visit (r : Run σ) (id : String) : Run σ :=
  let (there, world) := k.present r.world id
  let r := { r with world, calls := r.calls ++ [.present id there] }
  if ¬there then r
  else
    let (bound, world) := k.hasDriver r.world id
    let r := { r with world, calls := r.calls ++ [.hasDriver id bound] }
    if bound then r
    else
      let r := r.log ("ORPHANED: " ++ id ++ " is bound to no driver — binding to hid-generic")
      let (ok, world) := k.bind r.world id
      let r := { r with world, calls := r.calls ++ [Call.bind id ok] }
      if ok then { r.log ("  bound " ++ id ++ " to hid-generic") with rebound := r.rebound + 1 }
      else r.log ("  FAILED to bind " ++ id)

/-- Step 3: every interface is to be bound to something. -/
def rebind (r : Run σ) : Run σ :=
  let (names, world) := k.names r.world
  let r := (glob collate names).foldl (visit k) { r with world, rebound := 0 }
  if r.rebound = 0 then r.log "no orphaned interfaces found" else r

/-- `basename`, of what `readlink` printed if anything. -/
def basename : Option SysPath → String
  | none => ""
  | some [] => "/"
  | some (name :: _) => name

/-- One turn of the loop that reports. -/
def reportOne (r : Run σ) (id : String) : Run σ :=
  let (there, world) := k.present r.world id
  let r := { r with world }
  if ¬there then r
  else
    let (resolved, world) := k.readlink r.world id
    let drv := basename resolved
    { r with world }.log ("  " ++ id ++ " -> " ++ if drv = "" then "NONE" else drv)

/-- Step 4, up to the binding state. -/
def report (r : Run σ) : Run σ :=
  let r := r.log "--- final binding state ---"
  let (names, world) := k.names r.world
  (glob collate names).foldl (reportOne k) { r with world }

end Run

/-- The calls of one turn: nothing is bound but what was just seen to be there without a driver. -/
inductive Turn (id : String) : List Call → Prop
  | absent : Turn id [.present id false]
  | bound : Turn id [.present id true, .hasDriver id true]
  | tried (ok : Bool) : Turn id [.present id true, .hasDriver id false, .bind id ok]

/-- What a call makes the script say. -/
def Call.said : Call → List String
  | .bind id ok => [line ("ORPHANED: " ++ id ++ " is bound to no driver — binding to hid-generic"),
      line (if ok then "  bound " ++ id ++ " to hid-generic" else "  FAILED to bind " ++ id)]
  | _ => []

def Call.succeeded : Call → Bool
  | .bind _ ok => ok
  | _ => false

section
variable {σ : Type u} {k : Kernel σ} {collate : List String → List String}

/-- The run went on by these calls, and said what they make it say. -/
structure Went (r : Run σ) (done : List Call) (r' : Run σ) : Prop where
  calls : r'.calls = r.calls ++ done
  lines : r'.lines = r.lines ++ done.flatMap Call.said
  rebound : r'.rebound = r.rebound + done.countP Call.succeeded

theorem Went.trans {r r' r'' : Run σ} {first second : List Call} (one : Went r first r') (two : Went r' second r'') :
    Went r (first ++ second) r'' where
  calls := by rw [two.calls, one.calls, List.append_assoc]
  lines := by rw [two.lines, one.lines, List.flatMap_append, List.append_assoc]
  rebound := by rw [two.rebound, one.rebound, List.countP_append, Nat.add_assoc]

theorem went_visit (r : Run σ) (id : String) : ∃ done, Turn id done ∧ Went r done (r.visit k id) := by
  rcases here : k.present r.world id with ⟨there, w₁⟩
  cases there with
  | false =>
    refine ⟨_, .absent, ?_⟩
    simp only [Run.visit, here]
    exact ⟨rfl, (List.append_nil _).symm, rfl⟩
  | true =>
    rcases driven : k.hasDriver w₁ id with ⟨bound, w₂⟩
    cases bound with
    | true =>
      refine ⟨_, .bound, ?_⟩
      simp only [Run.visit, here, driven]
      exact ⟨List.append_assoc .., (List.append_nil _).symm, rfl⟩
    | false =>
      rcases tried : k.bind w₂ id with ⟨ok, w₃⟩
      refine ⟨_, .tried ok, ?_⟩
      simp only [Run.visit, here, driven, Run.log, tried]
      cases ok with
      | true => exact ⟨by simp, by simp [Call.said], rfl⟩
      | false => exact ⟨by simp, by simp [Call.said], rfl⟩

theorem went_visits (ids : List String) (r : Run σ) :
    ∃ turns, List.Forall₂ Turn ids turns ∧ Went r turns.flatten (ids.foldl (Run.visit k) r) := by
  induction ids generalizing r with
  | nil => exact ⟨[], .nil, (List.append_nil _).symm, (List.append_nil _).symm, rfl⟩
  | cons id rest ih =>
    obtain ⟨calls, turn, here⟩ := went_visit (k := k) r id
    obtain ⟨turns, later, after⟩ := ih (r.visit k id)
    exact ⟨calls :: turns, .cons turn later, here.trans after⟩

/-- Whatever happens to the devices meanwhile, the script writes no id to
`bind` but one of a name that it had just found there without a driver, once a
turn, and says how it went. That nothing was orphaned it says exactly when
nothing was bound, also where every attempt failed. -/
theorem binds_only_orphans (k : Kernel σ) (collate : List String → List String) (r : Run σ) :
    ∃ turns, List.Forall₂ Turn (glob collate (k.names r.world).1) turns ∧
      (r.rebind k collate).calls = r.calls ++ turns.flatten ∧
      (r.rebind k collate).lines = r.lines ++ turns.flatten.flatMap Call.said ++
        (if turns.flatten.any Call.succeeded then [] else [line "no orphaned interfaces found"]) := by
  obtain ⟨turns, each, went⟩ := went_visits (k := k) (glob collate (k.names r.world).1)
    { r with world := (k.names r.world).2, rebound := 0 }
  have rebound := went.rebound
  rw [Nat.zero_add] at rebound
  have some : turns.flatten.any Call.succeeded = true ↔ turns.flatten.countP Call.succeeded ≠ 0 := by
    rw [Nat.ne_zero_iff_zero_lt, List.countP_pos_iff, List.any_eq_true]
  refine ⟨turns, each, ?_, ?_⟩
  · simp only [Run.rebind]
    split
    · exact went.calls
    · exact went.calls
  · simp only [Run.rebind, some, rebound]
    split
    · rename_i zero
      rw [if_neg (by simpa using zero)]
      exact congrArg (· ++ _) went.lines
    · rw [List.append_nil]
      exact went.lines

/-- `drivers/hid-generic`. -/
def GENERIC : SysPath := ["hid-generic", "drivers", "hid", "bus", "sys"]

/-- A kernel that only the script moves. `tree` is what its tree says of a name:
not there, there without a driver, or bound to one. `readlink -f` takes a last
component that does not exist for itself. -/
structure Quiet (k : Kernel σ) (listing : List String) (tree : σ → String → Option (Option SysPath)) (home : String → SysPath) :
    Prop where
  names : ∀ w, k.names w = (listing, w)
  present : ∀ w id, k.present w id = ((tree w id).isSome, w)
  hasDriver : ∀ w id, k.hasDriver w id = (((tree w id).bind fun driver => driver).isSome, w)
  bind : ∀ w id, tree (k.bind w id).2 =
    if (k.bind w id).1 then Function.update (tree w) id (some (some GENERIC)) else tree w
  readlink : ∀ w id, k.readlink w id = ((tree w id).map fun driver => driver.getD ("driver" :: home id), w)
  unlisted : ∀ w id, id ∉ listing → tree w id = none

section
variable {listing : List String} {tree : σ → String → Option (Option SysPath)} {home : String → SysPath}

/-- What a turn makes of the tree. -/
theorem tree_visit (quiet : Quiet k listing tree home) (r : Run σ) (id : String) :
    (tree r.world id ≠ some none ∧ tree (r.visit k id).world = tree r.world ∧ (r.visit k id).lines = r.lines ∧
      (r.visit k id).rebound = r.rebound) ∨
    (tree r.world id = some none ∧ tree (r.visit k id).world = Function.update (tree r.world) id (some (some GENERIC)) ∧
      r.lines ⊆ (r.visit k id).lines) ∨
    (tree r.world id = some none ∧ tree (r.visit k id).world = tree r.world ∧
      r.lines ⊆ (r.visit k id).lines ∧ line ("  FAILED to bind " ++ id) ∈ (r.visit k id).lines) := by
  have there := quiet.present r.world id
  have driven := quiet.hasDriver r.world id
  have bound := quiet.bind r.world id
  rcases known : tree r.world id with _ | _ | driver
  · rw [known] at there
    refine Or.inl ⟨by simp, ?_⟩
    simp only [Run.visit, there]
    exact ⟨rfl, rfl, rfl⟩
  · rw [known] at there driven
    rcases tried : k.bind r.world id with ⟨ok, w⟩
    rw [tried] at bound
    cases ok with
    | true =>
      refine Or.inr (Or.inl ⟨rfl, ?_⟩)
      simp only [Run.visit, there, driven, Run.log, tried]
      exact ⟨bound, fun text member => by simp [member]⟩
    | false =>
      refine Or.inr (Or.inr ⟨rfl, ?_⟩)
      simp only [Run.visit, there, driven, Run.log, tried]
      exact ⟨bound, fun text member => by simp [member], by simp⟩
  · rw [known] at there driven
    refine Or.inl ⟨by simp, ?_⟩
    simp only [Run.visit, there, driven]
    exact ⟨rfl, rfl, rfl⟩

/-- What the turns up to now made of the tree. -/
structure Mended (tree : σ → String → Option (Option SysPath)) (r : Run σ) (ids : List String) (r' : Run σ) : Prop where
  frame : ∀ id, tree r'.world id = tree r.world id ∨
    id ∈ ids ∧ tree r.world id = some none ∧ tree r'.world id = some (some GENERIC)
  mended : ∀ id ∈ ids, tree r'.world id = some none → line ("  FAILED to bind " ++ id) ∈ r'.lines
  lines : r.lines ⊆ r'.lines

theorem Mended.trans {r r' r'' : Run σ} {first second : List String} (one : Mended tree r first r')
    (two : Mended tree r' second r'') : Mended tree r (first ++ second) r'' where
  frame id := by
    rcases two.frame id with kept | ⟨member, orphan, after⟩
    · rcases one.frame id with kept' | ⟨member, before, after⟩
      · exact Or.inl (kept.trans kept')
      · exact Or.inr ⟨List.mem_append_left _ member, before, kept.trans after⟩
    · rcases one.frame id with kept' | ⟨_, _, bound⟩
      · exact Or.inr ⟨List.mem_append_right _ member, kept'.symm.trans orphan, after⟩
      · rw [bound] at orphan
        cases orphan
  mended id member left := by
    have before : tree r'.world id = some none := by
      rcases two.frame id with kept | ⟨_, _, bound⟩
      · exact kept.symm.trans left
      · rw [bound] at left
        cases left
    rcases List.mem_append.mp member with early | late
    · exact two.lines (one.mended id early before)
    · exact two.mended id late left
  lines := List.Subset.trans one.lines two.lines

theorem mended_visit (quiet : Quiet k listing tree home) (r : Run σ) (id : String) : Mended tree r [id] (r.visit k id) := by
  rcases tree_visit quiet r id with ⟨fine, same, silent, _⟩ | ⟨orphan, changed, said⟩ | ⟨orphan, same, said, failed⟩
  · refine ⟨fun other => Or.inl (congrFun same other), ?_, by rw [silent]; exact List.Subset.refl _⟩
    intro other member left
    obtain rfl := List.mem_singleton.mp member
    exact absurd ((congrFun same other).symm.trans left) fine
  · refine ⟨fun other => ?_, ?_, said⟩
    · by_cases here : other = id
      · subst here
        exact Or.inr ⟨List.mem_singleton_self _, orphan, by rw [changed, Function.update_self]⟩
      · exact Or.inl (by rw [changed, Function.update_of_ne here])
    · intro other member left
      obtain rfl := List.mem_singleton.mp member
      rw [changed, Function.update_self] at left
      cases left
  · refine ⟨fun other => Or.inl (congrFun same other), ?_, said⟩
    intro other member _
    obtain rfl := List.mem_singleton.mp member
    exact failed

theorem mended_visits (quiet : Quiet k listing tree home) (ids : List String) (r : Run σ) :
    Mended tree r ids (ids.foldl (Run.visit k) r) := by
  induction ids generalizing r with
  | nil => exact ⟨fun _ => Or.inl rfl, fun _ member => absurd member List.not_mem_nil, List.Subset.refl _⟩
  | cons id rest ih => exact (mended_visit quiet r id).trans (ih (r.visit k id))

/-- Of the names that the kernel gives, the pattern matches those of the vendor. -/
theorem matchesRazer_iff {id : String} {name : HidName} (named : id.toList = name.text) :
    matchesRazer id ↔ name.vendor = VENDOR_ID.toNat := by
  have colon {n : Nat} : ':' ∉ (hexUpper 4 n).toList := not_mem_hexUpper (by decide)
  have point {n : Nat} : '.' ∉ (hexUpper 4 n).toList := not_mem_hexUpper (by decide)
  have pattern : ":1532:".toList = ':' :: ((hexUpper 4 VENDOR_ID.toNat).toList ++ [':']) := by decide
  have visible : name.text.head? ≠ some '.' := by
    rw [HidName.text]
    intro first
    cases digits : (hexUpper 4 name.bus).toList with
    | nil =>
      rw [digits] at first
      cases first
    | cons c rest =>
      rw [digits] at first
      obtain rfl : c = '.' := Option.some.inj first
      exact point (digits ▸ List.mem_cons_self ..)
  have last : ¬ ':' :: ((hexUpper 4 VENDOR_ID.toNat).toList ++ [':']) <:+: '.' :: (hexUpper 4 name.number).toList := by
    intro found
    rcases List.mem_cons.mp (found.subset (List.mem_cons_self ..)) with same | inside
    · cases same
    · exact colon inside
  have vendorOnly : ":1532:".toList <:+: name.text ↔ name.vendor = VENDOR_ID.toNat := by
    rw [pattern, HidName.text, Fields.infix_append_iff colon, List.infix_cons_iff, List.cons_prefix_cons,
      Fields.prefix_append_iff colon colon, Fields.infix_append_iff colon, List.infix_cons_iff, List.cons_prefix_cons,
      Fields.prefix_append_iff colon point, Fields.infix_append_iff colon]
    constructor
    · rintro (⟨_, same, _⟩ | ⟨_, _, marks⟩ | found)
      · exact (hexUpper_inj.mp same).symm
      · cases marks
      · exact absurd found last
    · intro same
      exact Or.inl ⟨rfl, by rw [same], rfl⟩
  rw [matchesRazer, named]
  exact ⟨fun found => vendorOnly.mp found.2, fun same => ⟨visible, vendorOnly.mpr same⟩⟩

theorem mem_glob (whole : ∀ l, (collate l).Perm l) {id : String} (found : id ∈ listing) :
    id ∈ glob collate listing ↔ matchesRazer id := by
  have kept : id ∈ listing.filter matchesRazer ↔ matchesRazer id := by simp [found]
  unfold glob
  split
  · rename_i none
    rw [none] at kept
    -- The pattern matches itself.
    have self : matchesRazer "*:1532:*" := by decide
    constructor
    · intro literal
      obtain rfl := List.mem_singleton.mp literal
      exact self
    · intro razer
      cases kept.mpr razer
  · rw [(whole _).mem_iff]
    exact kept

theorem rebind_eq (quiet : Quiet k listing tree home) (r : Run σ) :
    (r.rebind k collate).world = ((glob collate listing).foldl (Run.visit k) { r with rebound := 0 }).world ∧
      ((glob collate listing).foldl (Run.visit k) { r with rebound := 0 }).lines ⊆ (r.rebind k collate).lines := by
  simp only [Run.rebind, quiet.names]
  split
  · exact ⟨rfl, fun text member => by simp [Run.log, member]⟩
  · exact ⟨rfl, List.Subset.refl _⟩

/-- With no orphan among them nothing is done about any. -/
theorem visits_idle (quiet : Quiet k listing tree home) (ids : List String) (r : Run σ)
    (fine : ∀ id ∈ ids, tree r.world id ≠ some none) :
    tree (ids.foldl (Run.visit k) r).world = tree r.world ∧ (ids.foldl (Run.visit k) r).lines = r.lines ∧
      (ids.foldl (Run.visit k) r).rebound = r.rebound := by
  induction ids generalizing r with
  | nil => exact ⟨rfl, rfl, rfl⟩
  | cons id rest ih =>
    obtain ⟨here, later⟩ := List.forall_mem_cons.mp fine
    rcases tree_visit quiet r id with ⟨_, same, silent, still⟩ | ⟨orphan, _⟩ | ⟨orphan, _⟩
    · obtain ⟨same', silent', still'⟩ := ih (r.visit k id) fun other member => by rw [same]; exact later other member
      exact ⟨same'.trans same, silent'.trans silent, still'.trans still⟩
    · exact absurd orphan here
    · exact absurd orphan here

/-- Step 3 binds orphaned interfaces of the vendor to the generic driver and
changes nothing else. One that is left orphaned it has reported as failed, and
where it reported none, running it again does nothing and says so. -/
theorem rebinds_every_orphan (quiet : Quiet k listing tree home) (whole : ∀ l, (collate l).Perm l)
    (named : ∀ id ∈ listing, ∃ name : HidName, id.toList = name.text) (r : Run σ) :
    let r' := r.rebind k collate
    (∀ id, tree r'.world id = tree r.world id ∨
      tree r.world id = some none ∧ tree r'.world id = some (some GENERIC) ∧
        ∃ name : HidName, id.toList = name.text ∧ name.vendor = VENDOR_ID.toNat) ∧
    (∀ id, ∀ name : HidName, id.toList = name.text → name.vendor = VENDOR_ID.toNat → tree r'.world id = some none →
      line ("  FAILED to bind " ++ id) ∈ r'.lines) ∧
    ((∀ id, line ("  FAILED to bind " ++ id) ∉ r'.lines) →
      tree (r'.rebind k collate).world = tree r'.world ∧
        (r'.rebind k collate).lines = r'.lines ++ [line "no orphaned interfaces found"]) := by
  intro r'
  have swept := mended_visits quiet (glob collate listing) { r with rebound := 0 }
  obtain ⟨world, said⟩ : (r.rebind k collate).world = _ ∧ _ ⊆ (r.rebind k collate).lines := rebind_eq quiet r
  have listed {w : σ} {id : String} (orphan : tree w id = some none) : id ∈ listing := by
    by_contra absent
    rw [quiet.unlisted w id absent] at orphan
    cases orphan
  have failed : ∀ id, ∀ name : HidName, id.toList = name.text → name.vendor = VENDOR_ID.toNat → tree r'.world id = some none →
      line ("  FAILED to bind " ++ id) ∈ r'.lines := by
    intro id name spelled vendor left
    have among := (mem_glob whole (listed left)).mpr ((matchesRazer_iff spelled).mpr vendor)
    rw [world] at left
    exact said (swept.mended id among left)
  refine ⟨fun id => ?_, failed, fun clean => ?_⟩
  · rw [world]
    rcases swept.frame id with kept | ⟨among, orphan, bound⟩
    · exact Or.inl kept
    · obtain ⟨name, spelled⟩ := named id (listed orphan)
      have razer := (mem_glob whole (listed orphan)).mp among
      exact Or.inr ⟨orphan, bound, name, spelled, (matchesRazer_iff spelled).mp razer⟩
  · have fine : ∀ id ∈ glob collate listing, tree { r' with rebound := 0 }.world id ≠ some none := by
      intro id among orphan
      obtain ⟨name, spelled⟩ := named id (listed orphan)
      have razer := (mem_glob whole (listed orphan)).mp among
      exact clean id (failed id name spelled ((matchesRazer_iff spelled).mp razer) orphan)
    obtain ⟨same, silent, still⟩ := visits_idle quiet _ { r' with rebound := 0 } fine
    simp only [Run.rebind, quiet.names, still, if_pos, Run.log, silent]
    exact ⟨same, trivial⟩

/-- What is reported of a name in the end. -/
def shown (id : String) : Option (Option SysPath) → List String
  | none => []
  | some none => [line ("  " ++ id ++ " -> " ++ "driver")]
  | some (some driver) =>
    let drv := Run.basename (some driver)
    [line ("  " ++ id ++ " -> " ++ if drv = "" then "NONE" else drv)]

/-- The report names the driver of each interface. One that has none it does
not report as NONE but as bound to `driver`, for the link that does not exist
resolves to itself. -/
theorem report_shows (quiet : Quiet k listing tree home) (r : Run σ) :
    (r.report k collate).lines = r.lines ++ line "--- final binding state ---" ::
      (glob collate listing).flatMap fun id => shown id (tree r.world id) := by
  have each (ids : List String) (r : Run σ) : (ids.foldl (Run.reportOne k) r).lines =
      r.lines ++ ids.flatMap fun id => shown id (tree r.world id) := by
    induction ids generalizing r with
    | nil => exact (List.append_nil _).symm
    | cons id rest ih =>
      have here : (r.reportOne k id).world = r.world ∧ (r.reportOne k id).lines = r.lines ++ shown id (tree r.world id) := by
        have there := quiet.present r.world id
        have resolved := quiet.readlink r.world id
        rcases known : tree r.world id with _ | _ | driver
        · rw [known] at there
          simp only [Run.reportOne, there]
          exact ⟨rfl, (List.append_nil _).symm⟩
        · rw [known] at there resolved
          simp only [Run.reportOne, there, resolved, Option.map_some, Option.getD_none, Run.basename]
          rw [if_neg (by decide : ¬"driver" = "")]
          exact ⟨rfl, rfl⟩
        · rw [known] at there resolved
          simp only [Run.reportOne, there, resolved]
          exact ⟨rfl, rfl⟩
      rw [List.foldl_cons, ih, here.1, here.2, List.append_assoc, List.flatMap_cons]
  simp only [Run.report, quiet.names, each, Run.log, List.append_assoc, List.singleton_append]

end

end

/-- A receiver with a driver, and two interfaces of a keyboard without one. -/
def names : List String := ["0003:046D:C52B.0003", "0003:1532:028D.0004", "0003:1532:028D.0005"]

/-- A kernel that will not bind the second of the two. -/
def stubborn : Kernel (String → Option SysPath) where
  names w := (names, w)
  present w id := (decide (id ∈ names), w)
  hasDriver w id := (decide (id ∈ names) && (w id).isSome, w)
  bind w id :=
    if id ∈ names ∧ id ≠ "0003:1532:028D.0005" then (true, Function.update w id (some GENERIC)) else (false, w)
  readlink w id := (if id ∈ names then some ((w id).getD ["driver", id, "devices", "sys"]) else none, w)

def stubbornTree (w : String → Option SysPath) (id : String) : Option (Option SysPath) :=
  if id ∈ names then some (w id) else none

theorem stubborn_quiet : Quiet stubborn names stubbornTree (fun id => [id, "devices", "sys"]) where
  names _ := rfl
  present w id := by
    simp only [stubborn, stubbornTree]
    split <;> simp_all
  hasDriver w id := by
    simp only [stubborn, stubbornTree]
    split <;> simp_all
  bind w id := by
    simp only [stubborn]
    split
    · rename_i taken
      dsimp only
      rw [if_pos rfl]
      funext other
      by_cases here : other = id
      · subst here
        rw [Function.update_self, stubbornTree, if_pos taken.1, Function.update_self]
      · rw [Function.update_of_ne here, stubbornTree, stubbornTree, Function.update_of_ne here]
    · rfl
  readlink w id := by
    simp only [stubborn, stubbornTree]
    split <;> rfl
  unlisted w id absent := if_neg absent

def wedged : Run (String → Option SysPath) where
  world := fun id => if id = "0003:046D:C52B.0003" then some GENERIC else none
  calls := []
  lines := []
  rebound := 0

theorem rebinds_every_orphan_stubborn :
    line "  FAILED to bind 0003:1532:028D.0005" ∈ (wedged.rebind stubborn id).lines := by
  have named : ∀ id ∈ names, ∃ name : HidName, id.toList = name.text := by
    intro id member
    simp only [names, List.mem_cons, List.not_mem_nil, or_false] at member
    rcases member with rfl | rfl | rfl
    · exact ⟨⟨3, 0x046D, 0xC52B, 3⟩, by decide⟩
    · exact ⟨⟨3, 0x1532, 0x028D, 4⟩, by decide⟩
    · exact ⟨⟨3, 0x1532, 0x028D, 5⟩, by decide⟩
  obtain ⟨_, failed, _⟩ := @rebinds_every_orphan _ _ id _ _ _ stubborn_quiet (fun l => .refl l) named wedged
  exact failed "0003:1532:028D.0005" ⟨3, 0x1532, 0x028D, 5⟩ (by decide) rfl (by decide)

theorem report_shows_stubborn : (wedged.report stubborn id).lines = line "--- final binding state ---" ::
    (glob id names).flatMap fun id => shown id (stubbornTree wedged.world id) :=
  report_shows stubborn_quiet wedged

end Recover

end OpenRazer
