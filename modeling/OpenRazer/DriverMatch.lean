import OpenRazer.Arguments
import OpenRazer.Library.Fields
import OpenRazer.SysfsState

namespace OpenRazer

/-- The parts of an entry's name, `BUS:VENDOR:PRODUCT.INSTANCE`. -/
structure HidName where
  bus : Nat
  vendor : Nat
  product : Nat
  number : Nat
deriving DecidableEq

def HidName.text (name : HidName) : List Char :=
  (hexUpper 4 name.bus).toList ++ ':' :: ((hexUpper 4 name.vendor).toList ++ ':' :: ((hexUpper 4 name.product).toList ++
    '.' :: (hexUpper 4 name.number).toList))

/-- An entry has a name of that form, in capitals or not. -/
def HidEntry.Named (entry : HidEntry) (name : HidName) : Prop :=
  entry.fileName.toList.map Char.toUpper = name.text

instance (entry : HidEntry) (name : HidName) : Decidable (entry.Named name) :=
  inferInstanceAs (Decidable (_ = _))

/-- The last component of an entry's driver link, by which a driver goes. -/
def HidEntry.boundTo (entry : HidEntry) (driver : String) : Prop :=
  entry.driver.bind pathFileName = some driver

instance (entry : HidEntry) (driver : String) : Decidable (entry.boundTo driver) :=
  inferInstanceAs (Decidable (_ = _))

def HidEntry.OfProduct (entry : HidEntry) (pid : UInt16) : Prop :=
  ∃ name, entry.Named name ∧ name.product = pid.toNat

/-- The vendor and the product, as enumeration asks for them. -/
def HidEntry.OfRazer (entry : HidEntry) (pid : UInt16) : Prop :=
  ∃ name, entry.Named name ∧ name.vendor = VENDOR_ID.toNat ∧ name.product = pid.toNat

/-- The entries of the listing that could be read, in its order. -/
def SysTree.hidEntries (tree : SysTree) : List HidEntry :=
  (tree.readHidDevices.getD []).reduceOption

/-- A driver that is reported is one that a Razer entry with the product id is
bound to, and without a driver on such an entry none is reported. -/
structure Belongs (entries : List HidEntry) (pid : UInt16) (reported : Option String) : Prop where
  bound : ∀ driver, reported = some driver → ∃ entry ∈ entries, entry.OfRazer pid ∧ entry.boundTo driver
  unbound : (∀ entry ∈ entries, entry.OfRazer pid → entry.driver = none) → reported = none

/-- The driver of the first entry with the product id that has a driver. -/
def FirstDriver (entries : List HidEntry) (pid : UInt16) (driver : String) : Prop :=
  ∃ before entry after, entries = before ++ entry :: after ∧
    (∀ earlier ∈ before, earlier.OfProduct pid → earlier.driver = none) ∧ entry.OfProduct pid ∧ entry.boundTo driver

/-- The first entry with the product id and a driver is of another vendor, and
its driver is one that no Razer entry with that id is bound to. -/
def Impersonated (entries : List HidEntry) (pid : UInt16) : Prop :=
  ∃ before entry after name driver, entries = before ++ entry :: after ∧
    (∀ earlier ∈ before, earlier.OfProduct pid → earlier.driver = none) ∧
    entry.Named name ∧ name.product = pid.toNat ∧ name.vendor ≠ VENDOR_ID.toNat ∧ entry.boundTo driver ∧
    ∀ razer ∈ entries, razer.OfRazer pid → ¬razer.boundTo driver

theorem hexUpper_inj {width m n : Nat} : (hexUpper width m).toList = (hexUpper width n).toList ↔ m = n := by
  constructor
  · intro same
    rw [← (hexUpper_spec width m).1, same, (hexUpper_spec width n).1]
  · rintro rfl
    rfl

theorem not_mem_hexUpper {width n : Nat} {c : Char} (mark : isAsciiHexdigit c = false) : c ∉ (hexUpper width n).toList := by
  intro member
  rw [(hexUpper_spec width n).2 c member] at mark
  cases mark

/-- Of the three colon-separated parts only a product is followed by a point. -/
theorem needle_infix_text {pid : UInt16} {name : HidName} : needle pid <:+: name.text ↔ name.product = pid.toNat := by
  have colon {n : Nat} : ':' ∉ (hexUpper 4 n).toList := not_mem_hexUpper (by decide)
  have point {n : Nat} : '.' ∉ (hexUpper 4 n).toList := not_mem_hexUpper (by decide)
  have last : ¬ ':' :: ((hexUpper 4 pid.toNat).toList ++ ['.']) <:+: '.' :: (hexUpper 4 name.number).toList := by
    intro found
    have inside := found.subset (List.mem_cons_self ..)
    rcases List.mem_cons.mp inside with same | inside
    · cases same
    · exact colon inside
  rw [needle, HidName.text, List.cons_append, Fields.infix_append_iff colon, List.infix_cons_iff, List.cons_prefix_cons,
    Fields.prefix_append_iff point colon, Fields.infix_append_iff colon, List.infix_cons_iff, List.cons_prefix_cons,
    Fields.prefix_append_iff point point, Fields.infix_append_iff colon]
  constructor
  · rintro (⟨_, _, marks⟩ | ⟨_, same, _⟩ | found)
    · cases marks
    · exact (hexUpper_inj.mp same).symm
    · exact absurd found last
  · intro same
    exact Or.inr (Or.inl ⟨rfl, by rw [same], rfl⟩)

theorem ascii_of_toUpper {c : Char} (ascii : c.toUpper.toNat < 128) : c.toNat < 128 := by
  by_cases lower : 'a'.val ≤ c.val ∧ c.val ≤ 'z'.val
  · exact lt_of_le_of_lt (UInt32.le_iff_toNat_le.mp lower.2) (by decide)
  · have same : c.toUpper = c := dif_neg lower
    rwa [same] at ascii

theorem HidName.ascii {name : HidName} : ∀ c ∈ name.text, c.toNat < 128 := by
  have digits {n : Nat} : ∀ c ∈ (hexUpper 4 n).toList, c.toNat < 128 := by
    intro c member
    have hex := (hexUpper_spec 4 n).2 c member
    simp only [isAsciiHexdigit, Char.isDigit, Bool.or_eq_true, Bool.and_eq_true, decide_eq_true_eq] at hex
    rcases hex with (⟨_, below⟩ | ⟨_, below⟩) | ⟨_, below⟩
    · exact lt_of_le_of_lt (UInt32.le_iff_toNat_le.mp below) (by decide)
    · exact lt_of_le_of_lt (UInt32.le_iff_toNat_le.mp below) (by decide)
    · exact lt_of_le_of_lt (UInt32.le_iff_toNat_le.mp below) (by decide)
  intro c member
  simp only [HidName.text, List.mem_append, List.mem_cons] at member
  rcases member with bus | rfl | vendor | rfl | product | rfl | number
  · exact digits c bus
  · decide
  · exact digits c vendor
  · decide
  · exact digits c product
  · decide
  · exact digits c number

variable (unicode : Uppercase) {pid : UInt16}

theorem Uppercase.text_of_named {entry : HidEntry} {name : HidName} (named : entry.Named name) :
    unicode.text entry.fileName = name.text := by
  have each : ∀ c ∈ entry.fileName.toList, unicode.upper c = [c.toUpper] := by
    intro c member
    have capital : c.toUpper ∈ name.text := by
      rw [← named]
      exact List.mem_map_of_mem member
    exact unicode.ascii c (ascii_of_toUpper (HidName.ascii _ capital))
  rw [Uppercase.text, List.flatMap_congr each, ← List.map_eq_flatMap]
  exact named

/-- For names of the usual form the substring test is a test of the product id alone. -/
theorem needle_infix_iff {entry : HidEntry} (formed : ∃ name, entry.Named name) :
    needle pid <:+: unicode.text entry.fileName ↔ entry.OfProduct pid := by
  constructor
  · intro found
    obtain ⟨name, named⟩ := formed
    rw [unicode.text_of_named named] at found
    exact ⟨name, named, needle_infix_text.mp found⟩
  · rintro ⟨name, named, product⟩
    rw [unicode.text_of_named named]
    exact needle_infix_text.mpr product

/-- An entry that is passed over is one more in front of the first with a driver. -/
theorem firstDriver_cons {first : HidEntry} {rest : List HidEntry} {driver : String}
    (skipped : first.OfProduct pid → first.driver = none) :
    FirstDriver (first :: rest) pid driver ↔ FirstDriver rest pid driver := by
  constructor
  · rintro ⟨before, entry, after, parts, unlinked, product, bound⟩
    cases before with
    | nil =>
      obtain ⟨rfl, rfl⟩ := List.cons.inj parts
      rw [HidEntry.boundTo, skipped product] at bound
      cases bound
    | cons _ before =>
      obtain ⟨rfl, rfl⟩ := List.cons.inj parts
      exact ⟨before, entry, after, rfl, (List.forall_mem_cons.mp unlinked).2, product, bound⟩
  · rintro ⟨before, entry, after, rfl, unlinked, product, bound⟩
    exact ⟨first :: before, entry, after, rfl, List.forall_mem_cons.mpr ⟨skipped, unlinked⟩, product, bound⟩

/-- The search ends at the first entry with the product id that has a driver link. -/
theorem firstDriver_cons_of_link {first : HidEntry} {rest : List HidEntry} {driver link : String}
    (product : first.OfProduct pid) (linked : first.driver = some link) :
    FirstDriver (first :: rest) pid driver ↔ pathFileName link = some driver := by
  constructor
  · rintro ⟨before, entry, after, parts, unlinked, _, bound⟩
    cases before with
    | nil =>
      obtain ⟨rfl, rfl⟩ := List.cons.inj parts
      rwa [HidEntry.boundTo, linked] at bound
    | cons _ before =>
      obtain ⟨rfl, rfl⟩ := List.cons.inj parts
      rw [(List.forall_mem_cons.mp unlinked).1 product] at linked
      cases linked
  · intro named
    refine ⟨[], first, rest, rfl, by simp, product, ?_⟩
    rw [HidEntry.boundTo, linked]
    exact named

/-- What is reported is the driver of the first entry with the product id that has one. -/
theorem findDriver_eq_some {entries : List HidEntry} (formed : ∀ entry ∈ entries, ∃ name, entry.Named name) {driver : String} :
    findDriver unicode pid entries = some driver ↔ FirstDriver entries pid driver := by
  induction entries with
  | nil =>
    rw [findDriver]
    constructor
    · intro found
      cases found
    · rintro ⟨before, entry, after, parts, _⟩
      exact absurd parts.symm (by simp)
  | cons first rest ih =>
    obtain ⟨here, later⟩ := List.forall_mem_cons.mp formed
    have test : needle pid <:+: unicode.text first.fileName ↔ first.OfProduct pid := needle_infix_iff unicode here
    rw [findDriver]
    split
    · rename_i other
      rw [firstDriver_cons fun product => absurd (test.mpr product) other]
      exact ih later
    · rename_i found
      cases linked : first.driver with
      | none =>
        rw [firstDriver_cons fun _ => linked]
        exact ih later
      | some link => exact (firstDriver_cons_of_link (test.mp (not_not.mp found)) linked).symm

theorem readSysfsState_driver (tree : SysTree) (hidrawName : String) :
    (readSysfsState unicode tree hidrawName pid).2 = findDriver unicode pid tree.hidEntries := by
  rw [readSysfsState, SysTree.hidEntries]
  cases tree.readHidDevices with
  | none => rfl
  | some entries => rfl

section Listing
variable {entries : List HidEntry} {reported : Option String}

theorem belongs_of_not_impersonated (first : ∀ driver, reported = some driver ↔ FirstDriver entries pid driver)
    (undisturbed : ¬Impersonated entries pid) : Belongs entries pid reported := by
  have bound (driver : String) (found : reported = some driver) :
      ∃ entry ∈ entries, entry.OfRazer pid ∧ entry.boundTo driver := by
    by_contra alone
    push Not at alone
    obtain ⟨before, entry, after, parts, unlinked, ⟨name, named, product⟩, here⟩ := (first driver).mp found
    have listed : entry ∈ entries := by simp [parts]
    have foreign : name.vendor ≠ VENDOR_ID.toNat := fun razer => alone entry listed ⟨name, named, razer, product⟩ here
    exact undisturbed ⟨before, entry, after, name, driver, parts, unlinked, named, product, foreign, here, alone⟩
  refine ⟨bound, fun unbound => ?_⟩
  by_contra some
  obtain ⟨driver, found⟩ := Option.ne_none_iff_exists'.mp some
  obtain ⟨entry, listed, ofRazer, same⟩ := bound driver found
  rw [HidEntry.boundTo, unbound entry listed ofRazer] at same
  cases same

theorem not_belongs_of_impersonated (first : ∀ driver, reported = some driver ↔ FirstDriver entries pid driver)
    (impersonated : Impersonated entries pid) : ¬Belongs entries pid reported := by
  obtain ⟨before, entry, after, name, driver, parts, unlinked, named, product, _, bound, alone⟩ := impersonated
  intro belongs
  have found := (first driver).mpr ⟨before, entry, after, parts, unlinked, ⟨name, named, product⟩, bound⟩
  obtain ⟨razer, listed, ofRazer, same⟩ := belongs.bound driver found
  exact alone razer listed ofRazer same

end Listing

theorem readSysfsState_first {tree : SysTree} {hidrawName : String} {pid : UInt16}
    (formed : ∀ entry ∈ tree.hidEntries, ∃ name, entry.Named name) (driver : String) :
    (readSysfsState unicode tree hidrawName pid).2 = some driver ↔ FirstDriver tree.hidEntries pid driver := by
  rw [readSysfsState_driver]
  exact findDriver_eq_some unicode formed

/-- The driver that is reported belongs to the device exactly when no entry of
another vendor with the same product id comes first with a driver of its own. -/
theorem readSysfsState_belongs_iff (tree : SysTree) (hidrawName : String) (pid : UInt16)
    (formed : ∀ entry ∈ tree.hidEntries, ∃ name, entry.Named name) :
    Belongs tree.hidEntries pid (readSysfsState unicode tree hidrawName pid).2 ↔ ¬Impersonated tree.hidEntries pid := by
  have first : ∀ driver, (readSysfsState unicode tree hidrawName pid).2 = some driver ↔ FirstDriver tree.hidEntries pid driver :=
    readSysfsState_first unicode formed
  exact ⟨fun belongs impersonated => not_belongs_of_impersonated first impersonated belongs, belongs_of_not_impersonated first⟩

/-- The parts of a name can be read off it. -/
theorem HidName.text_injective {m n : HidName} (same : m.text = n.text) : m = n := by
  have colon {k : Nat} : ':' ∉ (hexUpper 4 k).toList := not_mem_hexUpper (by decide)
  have point {k : Nat} : '.' ∉ (hexUpper 4 k).toList := not_mem_hexUpper (by decide)
  rw [HidName.text, HidName.text, Fields.append_mark_inj colon colon, Fields.append_mark_inj colon colon,
    Fields.append_mark_inj point point, hexUpper_inj, hexUpper_inj, hexUpper_inj, hexUpper_inj] at same
  obtain ⟨bus, vendor, product, number⟩ := same
  cases m
  cases n
  rw [HidName.mk.injEq]
  exact ⟨bus, vendor, product, number⟩

/-- A keyboard of vendor `046D` that shares the product id, listed in front of the Razer one. -/
def foreignFirst : SysTree where
  canonicalize _ := none
  devnumExists _ := false
  readDevnum _ := none
  readHidDevices := some [
    some { fileName := "0003:046D:028D.0001", driver := some "../../../../bus/hid/drivers/hid-generic" },
    some { fileName := "0003:1532:028D.0002", driver := some "../../../../bus/hid/drivers/razerkbd" }]

def asciiUppercase : Uppercase where
  upper c := [c.toUpper]
  ascii _ _ := rfl

theorem foreignFirst_formed : ∀ entry ∈ foreignFirst.hidEntries, ∃ name, entry.Named name := by
  refine List.forall_mem_cons.mpr ⟨⟨⟨3, 0x046D, 0x028D, 1⟩, ?_⟩, List.forall_mem_singleton.mpr ⟨⟨3, 0x1532, 0x028D, 2⟩, ?_⟩⟩
  · decide
  · decide

theorem foreignFirst_impersonated : Impersonated foreignFirst.hidEntries 0x028D := by
  have foreign : HidEntry.Named { fileName := "0003:046D:028D.0001", driver := some "../../../../bus/hid/drivers/hid-generic" }
      ⟨3, 0x046D, 0x028D, 1⟩ := by decide
  refine ⟨[], _, _, _, "hid-generic", rfl, by simp, foreign, rfl, by decide, by decide, ?_⟩
  refine List.forall_mem_cons.mpr ⟨?_, List.forall_mem_singleton.mpr fun _ => by decide⟩
  rintro ⟨name, named, vendor, _⟩ _
  obtain rfl := HidName.text_injective (named.symm.trans foreign)
  exact absurd vendor (by decide)

theorem readSysfsState_belongs_iff_foreignFirst :
    Belongs foreignFirst.hidEntries 0x028D (readSysfsState asciiUppercase foreignFirst "hidraw3" 0x028D).2 ↔
      ¬Impersonated foreignFirst.hidEntries 0x028D :=
  readSysfsState_belongs_iff asciiUppercase foreignFirst "hidraw3" 0x028D foreignFirst_formed

theorem foreign_driver_is_reported :
    (∀ entry ∈ foreignFirst.hidEntries, ∃ name, entry.Named name) ∧
      ¬Belongs foreignFirst.hidEntries 0x028D (readSysfsState asciiUppercase foreignFirst "hidraw3" 0x028D).2 :=
  ⟨foreignFirst_formed,
    not_belongs_of_impersonated (readSysfsState_first asciiUppercase foreignFirst_formed) foreignFirst_impersonated⟩

end OpenRazer
