import SingBox.FakeIPStore

/-!
# Invariants of the FakeIP store

Over every run of a store started on ranges of the right families, each masked and of
at least four addresses:

* the address map and the domain maps of `MemoryStorage` stay mutually inverse
  (`MemoryStorage.Inverse`), so storing an address over another domain's entry removes
  that domain's reverse entry;
* each cursor stays between the second address of its range and the one before the
  broadcast address, and every address handed out lies in the window from the third
  address to the one before the broadcast address (`Store.Inv`);
* consecutive creations for fresh domains hand out `size - 3` pairwise distinct
  addresses before the first one comes back (`Store.createAll_nodup`).

Storing keeps the maps inverse only when the domain has no address of the stored
address's family yet, which `Create` checks first, and when the address is valid and of
the range's family, which the cursor invariant gives.
-/

namespace SingBox

namespace MemoryStorage

variable (s : MemoryStorage)

/-- The address map and the domain maps are mutually inverse, and each domain map holds
addresses of its own family. -/
structure Inverse : Prop where
  load : ∀ address domain,
    s.FakeIPLoad address = some domain ↔ s.FakeIPLoadDomain domain address.Is6 = some address
  family4 : ∀ domain address, s.domainCache4 domain = some address → address.Is4 = true
  family6 : ∀ domain address, s.domainCache6 domain = some address → address.Is6 = true

theorem empty_inverse : empty.Inverse :=
  ⟨by simp [empty, FakeIPLoad, FakeIPLoadDomain], by simp [empty], by simp [empty]⟩

theorem FakeIPLoad_FakeIPStore (address address' : Addr) (domain : String) :
    (s.FakeIPStore address domain).FakeIPLoad address' =
      if address' = address then some domain else s.FakeIPLoad address' := by
  unfold FakeIPStore
  cases s.addressCache address <;> cases address.Is4 <;>
    simp [FakeIPLoad, Function.update_apply]

theorem FakeIPLoadDomain_FakeIPStore {address : Addr} (hvalid : address.IsValid = true)
    (domain domain' : String) (isIPv6 : Bool) :
    (s.FakeIPStore address domain).FakeIPLoadDomain domain' isIPv6 =
      if isIPv6 = address.Is6 then
        if domain' = domain then some address
        else if s.FakeIPLoad address = some domain' then none
        else s.FakeIPLoadDomain domain' isIPv6
      else s.FakeIPLoadDomain domain' isIPv6 := by
  unfold FakeIPStore
  cases address with
  | zero => simp [Addr.IsValid] at hvalid
  | v4 b =>
    cases hold : s.addressCache (.v4 b) <;> cases isIPv6 <;>
      simp [FakeIPLoadDomain, FakeIPLoad, Addr.Is4, Addr.Is6, Function.update_apply, hold]
    all_goals grind
  | v6 b =>
    cases hold : s.addressCache (.v6 b) <;> cases isIPv6 <;>
      simp [FakeIPLoadDomain, FakeIPLoad, Addr.Is4, Addr.Is6, Function.update_apply, hold]
    all_goals grind

theorem Inverse.FakeIPReset : s.FakeIPReset.Inverse :=
  empty_inverse

theorem FakeIPStore_family {address : Addr} (hvalid : address.IsValid = true) {domain : String}
    (isIPv6 : Bool) (P : Addr → Prop) (hstored : isIPv6 = address.Is6 → P address)
    (hfamily : ∀ domain' address', s.FakeIPLoadDomain domain' isIPv6 = some address' → P address') :
    ∀ domain' address', (s.FakeIPStore address domain).FakeIPLoadDomain domain' isIPv6 = some address' →
      P address' := by
  intro domain' address' hload
  rw [FakeIPLoadDomain_FakeIPStore s hvalid] at hload
  split_ifs at hload with hsame hd
  · cases hload
    exact hstored hsame
  · exact hfamily domain' address' hload
  · exact hfamily domain' address' hload

/-- Storing a valid address for a domain that has no address of its family keeps the
maps inverse. -/
theorem Inverse.FakeIPStore {s : MemoryStorage} (h : s.Inverse) {address : Addr}
    (hvalid : address.IsValid = true) {domain : String}
    (hfresh : s.FakeIPLoadDomain domain address.Is6 = none) :
    (s.FakeIPStore address domain).Inverse := by
  have hfam := Addr.Is6_eq_not_Is4 hvalid
  refine ⟨?_, ?_, ?_⟩
  · intro address' domain'
    rw [FakeIPLoad_FakeIPStore, FakeIPLoadDomain_FakeIPStore s hvalid]
    by_cases ha : address' = address
    · subst ha
      by_cases hd : domain' = domain
      · simp [hd]
      · have hold : s.FakeIPLoadDomain domain' address'.Is6 ≠ some address' ∨
            s.FakeIPLoad address' = some domain' := by
          by_cases hl : s.FakeIPLoad address' = some domain'
          · exact Or.inr hl
          · exact Or.inl fun hback => hl ((h.load address' domain').mpr hback)
        rcases hold with hold | hold <;> simp [hd, hold, Ne.symm hd]
    · simp only [ha, if_false]
      by_cases hsame : address'.Is6 = address.Is6
      · simp only [hsame, if_true]
        by_cases hd : domain' = domain
        · subst hd
          simp only [if_true, Option.some.injEq, Ne.symm ha, iff_false]
          intro hload
          have := (h.load address' domain').mp hload
          rw [hsame, hfresh] at this
          cases this
        · simp only [hd, if_false]
          by_cases hold : s.FakeIPLoad address = some domain'
          · simp only [hold, if_true, reduceCtorEq, iff_false]
            intro hload
            have hback := (h.load address' domain').mp hload
            have hback' := (h.load address domain').mp hold
            rw [hsame, hback'] at hback
            exact ha (Option.some.inj hback).symm
          · simpa [hold, hsame] using h.load address' domain'
      · simp only [hsame, if_false]
        exact h.load address' domain'
  · exact s.FakeIPStore_family hvalid false (fun a => a.Is4 = true)
      (fun hfalse => by simpa [hfam] using hfalse.symm) h.family4
  · exact s.FakeIPStore_family hvalid true (fun a => a.Is6 = true) Eq.symm h.family6

end MemoryStorage

namespace Prefix

variable (p : Prefix)

/-- Host bits clear and at least four addresses. -/
def Spacious : Bool :=
  p.IsMasked && p.Bits + 2 ≤ p.width

/-- The addresses `Create` may hand out: from the third address of the range to the one
before its broadcast address. -/
def InWindow (a : Addr) : Prop :=
  p.SameFamily a = true ∧ p.base + 2 ≤ a.val ∧ a.val + 2 ≤ p.base + p.size

/-- Where a cursor may stand: the window, or the range's second address, where a fresh
start puts it. -/
def CursorOk (a : Addr) : Prop :=
  p.SameFamily a = true ∧ p.base + 1 ≤ a.val ∧ a.val + 2 ≤ p.base + p.size

variable {p}

theorem IsMasked_of_Spacious (hp : p.Spacious = true) : p.IsMasked = true := by
  simp only [Spacious, Bool.and_eq_true] at hp
  exact hp.1

theorem four_le_size (hp : p.Spacious = true) : 4 ≤ p.size := by
  simp only [Spacious, Bool.and_eq_true, decide_eq_true_eq] at hp
  calc 4 = 2 ^ 2 := rfl
    _ ≤ 2 ^ (p.width - p.Bits) := Nat.pow_le_pow_right (by decide) (by omega)

theorem InWindow.cursorOk {a : Addr} (h : p.InWindow a) : p.CursorOk a :=
  ⟨h.1, by have := h.2.1; omega, h.2.2⟩

theorem cursorOk_ip_Next (hp : p.Spacious = true) : p.CursorOk p.ip.Next := by
  have hsize := four_le_size hp
  have htop := base_add_size_le p (IsMasked_of_Spacious hp)
  obtain ⟨hfam, hval⟩ := Addr.Next_val p (SameFamily_ip p) (by simp only [base] at htop; omega)
  exact ⟨hfam, by simp only [hval, base]; omega, by simp only [hval, base] at htop ⊢; omega⟩

/-- An address of the window lies in the range and is none of the three addresses the
store keeps back. -/
theorem InWindow.contains (hp : p.Spacious = true) {a : Addr} (h : p.InWindow a) :
    p.Contains a = true ∧ a ≠ p.ip ∧ a ≠ p.ip.Next ∧ a ≠ broadcastAddress p := by
  obtain ⟨hfam, hlo, hhi⟩ := h
  have hmask := IsMasked_of_Spacious hp
  have hsize := four_le_size hp
  have htop := base_add_size_le p hmask
  obtain ⟨hnf, hnv⟩ := Addr.Next_val p (SameFamily_ip p) (by simp only [base] at htop; omega)
  obtain ⟨hbf, hbv⟩ := broadcastAddress_val p hmask
  refine ⟨(Contains_iff p hmask a).mpr ⟨hfam, by omega, by omega⟩, ?_, ?_, ?_⟩
  · intro heq
    have := congrArg Addr.val heq
    simp only [base] at hlo
    omega
  · intro heq
    have := congrArg Addr.val heq
    simp only [hnv, base] at this hlo
    omega
  · intro heq
    have := congrArg Addr.val heq
    omega

end Prefix

/-- The cursor step from where a cursor may stand: the result lies in the window, and it
is the successor of the cursor except at the address before the broadcast address, from
which it wraps to the third address. Counted from the range's second address, the
result stands where the cursor stood, modulo the window's `size - 3` addresses. -/
theorem nextAddress_spec {p : Prefix} (hp : p.Spacious = true) {c : Addr}
    (hc : p.CursorOk c) :
    p.InWindow (nextAddress (some p) (broadcastAddress p) c) ∧
      (nextAddress (some p) (broadcastAddress p) c).val =
        p.base + 2 + (c.val - (p.base + 1)) % (p.size - 3) := by
  obtain ⟨hfam, hlo, hhi⟩ := hc
  have hmask := Prefix.IsMasked_of_Spacious hp
  have hsize := Prefix.four_le_size hp
  have htop := Prefix.base_add_size_le p hmask
  obtain ⟨hnf, hnv⟩ := Addr.Next_val p hfam (by omega)
  obtain ⟨hbf, hbv⟩ := Prefix.broadcastAddress_val p hmask
  by_cases hwrap : c.val + 2 = p.base + p.size
  · have hbroad : c.Next = broadcastAddress p := (p.val_inj hnf hbf).mp (by omega)
    have hip : p.ip.val = p.base := rfl
    obtain ⟨hf1, hv1⟩ := Addr.Next_val p (Prefix.SameFamily_ip p) (by omega)
    obtain ⟨hf2, hv2⟩ := Addr.Next_val p hf1 (by omega)
    have hmod : (c.val - (p.base + 1)) % (p.size - 3) = 0 := by
      rw [show c.val - (p.base + 1) = p.size - 3 by omega, Nat.mod_self]
    simp only [nextAddress, hbroad, true_or, if_true, Option.map_some, Option.getD_some]
    exact ⟨⟨hf2, by omega, by omega⟩, by omega⟩
  · have hne : c.Next ≠ broadcastAddress p := fun heq => by
      have := congrArg Addr.val heq
      omega
    have hcont : p.Contains c.Next = true :=
      (Prefix.Contains_iff p hmask _).mpr ⟨hnf, by omega, by omega⟩
    have hmod : (c.val - (p.base + 1)) % (p.size - 3) = c.val - (p.base + 1) :=
      Nat.mod_eq_of_lt (by omega)
    simp only [nextAddress, hne, hcont, false_or, Option.map_some, Option.getD_some,
      Bool.true_eq_false, if_false]
    exact ⟨⟨hnf, by omega, by omega⟩, by omega⟩

namespace Store

/-! ### One family at a time

`Create` does the same for both families over the fields of the one it is asked for;
the accessors below name those fields, so that the invariant and its proofs are stated
once for a family. -/

def range (s : Store) : Bool → Option Prefix
  | false => s.inet4Range
  | true => s.inet6Range

def last (s : Store) : Bool → Addr
  | false => s.inet4Last
  | true => s.inet6Last

def current (s : Store) : Bool → Addr
  | false => s.inet4Current
  | true => s.inet6Current

def setCurrent (s : Store) : Bool → Addr → Store
  | false, a => { s with inet4Current := a }
  | true, a => { s with inet6Current := a }

@[simp] theorem range_setCurrent (s : Store) (isIPv6 isIPv6' : Bool) (a : Addr) :
    (s.setCurrent isIPv6 a).range isIPv6' = s.range isIPv6' := by
  cases isIPv6 <;> cases isIPv6' <;> rfl

@[simp] theorem last_setCurrent (s : Store) (isIPv6 isIPv6' : Bool) (a : Addr) :
    (s.setCurrent isIPv6 a).last isIPv6' = s.last isIPv6' := by
  cases isIPv6 <;> cases isIPv6' <;> rfl

@[simp] theorem current_setCurrent (s : Store) (isIPv6 isIPv6' : Bool) (a : Addr) :
    (s.setCurrent isIPv6 a).current isIPv6' = if isIPv6' = isIPv6 then a else s.current isIPv6' := by
  cases isIPv6 <;> cases isIPv6' <;> rfl

@[simp] theorem storage_setCurrent (s : Store) (isIPv6 : Bool) (a : Addr) :
    (s.setCurrent isIPv6 a).storage = s.storage := by
  cases isIPv6 <;> rfl

/-- `Create` for one family: a domain's address of the family if it has one; otherwise,
with a valid cursor, the cursor's next address, stored for the domain and made the
cursor; an error with no range. -/
theorem Create_eq (s : Store) (domain : String) (isIPv6 : Bool) :
    s.Create domain isIPv6 =
      match s.storage.FakeIPLoadDomain domain isIPv6 with
      | some address => .ok (address, s)
      | none =>
        if (s.current isIPv6).IsValid then
          let address := nextAddress (s.range isIPv6) (s.last isIPv6) (s.current isIPv6)
          .ok (address,
            { s.setCurrent isIPv6 address with storage := s.storage.FakeIPStore address domain })
        else if isIPv6 then .error "missing IPv6 fakeip address range"
        else .error "missing IPv4 fakeip address range" := by
  unfold Create
  cases s.storage.FakeIPLoadDomain domain isIPv6 with
  | some address => rfl
  | none =>
    cases isIPv6
    · change _ = if s.inet4Current.IsValid then _ else _
      cases s.inet4Current.IsValid <;> rfl
    · change _ = if s.inet6Current.IsValid then _ else _
      cases s.inet6Current.IsValid <;> rfl

@[simp] theorem range_withStorage (s : Store) (storage : MemoryStorage) (isIPv6 : Bool) :
    ({ s with storage } : Store).range isIPv6 = s.range isIPv6 := by
  cases isIPv6 <;> rfl

@[simp] theorem last_withStorage (s : Store) (storage : MemoryStorage) (isIPv6 : Bool) :
    ({ s with storage } : Store).last isIPv6 = s.last isIPv6 := by
  cases isIPv6 <;> rfl

@[simp] theorem current_withStorage (s : Store) (storage : MemoryStorage) (isIPv6 : Bool) :
    ({ s with storage } : Store).current isIPv6 = s.current isIPv6 := by
  cases isIPv6 <;> rfl

theorem range_of_Create {s s' : Store} {domain : String} {isIPv6 : Bool} {address : Addr}
    (hc : s.Create domain isIPv6 = .ok (address, s')) (isIPv6' : Bool) :
    s'.range isIPv6' = s.range isIPv6' := by
  rw [Create_eq] at hc
  cases hload : s.storage.FakeIPLoadDomain domain isIPv6 with
  | some a =>
    simp only [hload, Except.ok.injEq, Prod.mk.injEq] at hc
    rw [← hc.2]
  | none =>
    simp only [hload] at hc
    split_ifs at hc
    · simp only [Except.ok.injEq, Prod.mk.injEq] at hc
      rw [← hc.2, range_withStorage, range_setCurrent]

theorem range_step (s : Store) (op : StoreOp) (isIPv6 : Bool) :
    (s.step op).range isIPv6 = s.range isIPv6 := by
  cases op with
  | create domain isIPv6' =>
    simp only [step]
    cases hc : s.Create domain isIPv6' with
    | ok result => exact range_of_Create hc isIPv6
    | error e => rfl
  | lookup address => rfl
  | reset => exact range_withStorage s _ isIPv6

theorem range_run (s : Store) (ops : List StoreOp) (isIPv6 : Bool) :
    (s.run ops).range isIPv6 = s.range isIPv6 := by
  induction ops generalizing s with
  | nil => rfl
  | cons op ops ih =>
    simp only [run, List.foldl_cons] at ih ⊢
    rw [ih, range_step]

/-! ### The invariant -/

/-- One family of a started store. Without a range its cursor is invalid, so `Create`
for the family fails and stores nothing; with one, the range is of the family and
spacious, `last` is its broadcast address, and the cursor stands where it may. -/
def FamilyInv (isIPv6 : Bool) : Option Prefix → Addr → Addr → Prop
  | none, _, current => current.IsValid = false
  | some p, last, current =>
    p.ip.Is6 = isIPv6 ∧ p.Spacious = true ∧ last = broadcastAddress p ∧ p.CursorOk current

/-- The invariant of a started store: both families as `FamilyInv` says, the maps
inverse, and every stored address in the window of its family's range. -/
structure Inv (s : Store) : Prop where
  family : ∀ isIPv6, FamilyInv isIPv6 (s.range isIPv6) (s.last isIPv6) (s.current isIPv6)
  inverse : s.storage.Inverse
  stored : ∀ isIPv6 domain address, s.storage.FakeIPLoadDomain domain isIPv6 = some address →
    ∃ p ∈ s.range isIPv6, p.InWindow address

variable {s : Store}

theorem Inv.of_range {isIPv6 : Bool} {p : Prefix} (h : s.Inv) (hp : s.range isIPv6 = some p) :
    p.ip.Is6 = isIPv6 ∧ p.Spacious = true ∧ s.last isIPv6 = broadcastAddress p ∧
      p.CursorOk (s.current isIPv6) := by
  have := h.family isIPv6
  rw [hp] at this
  exact this

theorem Inv.exists_range {isIPv6 : Bool} (h : s.Inv) (hvalid : (s.current isIPv6).IsValid = true) :
    ∃ p, s.range isIPv6 = some p := by
  have := h.family isIPv6
  cases hr : s.range isIPv6 with
  | none =>
    rw [hr] at this
    simp only [FamilyInv] at this
    simp [this] at hvalid
  | some p => exact ⟨p, rfl⟩

/-- One creation keeps the invariant, and what it returns lies in the window. -/
theorem Inv.Create {s' : Store} {domain : String} {isIPv6 : Bool} {address : Addr}
    (h : s.Inv) (hc : s.Create domain isIPv6 = .ok (address, s')) :
    s'.Inv ∧ ∃ p ∈ s.range isIPv6, p.InWindow address := by
  rw [Create_eq] at hc
  cases hload : s.storage.FakeIPLoadDomain domain isIPv6 with
  | some a =>
    simp only [hload, Except.ok.injEq, Prod.mk.injEq] at hc
    obtain ⟨rfl, rfl⟩ := hc
    exact ⟨h, h.stored isIPv6 domain a hload⟩
  | none =>
    simp only [hload] at hc
    split_ifs at hc with hvalid
    simp only [Except.ok.injEq, Prod.mk.injEq] at hc
    obtain ⟨rfl, rfl⟩ := hc
    obtain ⟨p, hp⟩ := h.exists_range hvalid
    obtain ⟨hfam, hspacious, hlast, hcursor⟩ := h.of_range hp
    have hnext := nextAddress_spec hspacious hcursor
    rw [← hlast, ← hp] at hnext
    set a := nextAddress (s.range isIPv6) (s.last isIPv6) (s.current isIPv6)
    have hwin : p.InWindow a := hnext.1
    have ha6 : a.Is6 = isIPv6 := by rw [p.Is6_of_SameFamily hwin.1, hfam]
    have havalid := p.IsValid_of_SameFamily hwin.1
    refine ⟨⟨?_, ?_, ?_⟩, p, hp, hwin⟩
    · intro isIPv6'
      simp only [range_withStorage, last_withStorage, current_withStorage, range_setCurrent,
        last_setCurrent, current_setCurrent]
      by_cases hv : isIPv6' = isIPv6
      · subst hv
        simp only [if_true, hp]
        exact ⟨hfam, hspacious, hlast, hwin.cursorOk⟩
      · simp only [hv, if_false]
        exact h.family isIPv6'
    · exact h.inverse.FakeIPStore havalid (by rw [ha6]; exact hload)
    · intro isIPv6' domain' address' hload'
      simp only [range_withStorage, range_setCurrent]
      rw [MemoryStorage.FakeIPLoadDomain_FakeIPStore _ havalid] at hload'
      split_ifs at hload' with hv hd
      · cases hload'
        rw [hv, ha6, hp]
        exact ⟨p, rfl, hwin⟩
      · exact h.stored isIPv6' domain' address' hload'
      · exact h.stored isIPv6' domain' address' hload'

theorem Inv.Reset (h : s.Inv) : s.Reset.Inv := by
  refine ⟨?_, MemoryStorage.Inverse.FakeIPReset s.storage, ?_⟩
  · intro isIPv6
    simp only [Store.Reset, range_withStorage, last_withStorage, current_withStorage]
    exact h.family isIPv6
  · intro isIPv6 domain address hload
    cases isIPv6 <;> simp [Store.Reset, MemoryStorage.FakeIPReset, MemoryStorage.empty,
      MemoryStorage.FakeIPLoadDomain] at hload

theorem Inv.step (h : s.Inv) (op : StoreOp) : (s.step op).Inv := by
  cases op with
  | create domain isIPv6 =>
    simp only [Store.step]
    cases hc : s.Create domain isIPv6 with
    | ok result => exact (h.Create hc).1
    | error e => exact h
  | lookup address => exact h
  | reset => exact h.Reset

theorem Inv.run (h : s.Inv) (ops : List StoreOp) : (s.run ops).Inv := by
  induction ops generalizing s with
  | nil => exact h
  | cons op ops ih =>
    simp only [Store.run, List.foldl_cons] at ih ⊢
    exact ih (h.step op)

/-! ### Starting -/

/-- What the store needs of the range configured for a family: of the family, host
bits clear, at least four addresses. `NewTransport` checks none of it. -/
def RangeOk (isIPv6 : Bool) (range : Option Prefix) : Prop :=
  ∀ p ∈ range, p.ip.Is6 = isIPv6 ∧ p.Spacious = true

theorem range_NewStore (inet4Range inet6Range : Option Prefix) (isIPv6 : Bool) :
    (NewStore inet4Range inet6Range).range isIPv6 = if isIPv6 then inet6Range else inet4Range := by
  cases isIPv6 <;> rfl

theorem last_NewStore (inet4Range inet6Range : Option Prefix) (isIPv6 : Bool) :
    (NewStore inet4Range inet6Range).last isIPv6 =
      (((NewStore inet4Range inet6Range).range isIPv6).map broadcastAddress).getD .zero := by
  cases isIPv6 <;> rfl

theorem range_startFresh (s : Store) (storage : MemoryStorage) (isIPv6 : Bool) :
    (s.startFresh storage).range isIPv6 = s.range isIPv6 := by
  cases isIPv6 <;> rfl

theorem last_startFresh (s : Store) (storage : MemoryStorage) (isIPv6 : Bool) :
    (s.startFresh storage).last isIPv6 = s.last isIPv6 := by
  cases isIPv6 <;> rfl

theorem current_startFresh (s : Store) (storage : MemoryStorage) (isIPv6 : Bool) :
    (s.startFresh storage).current isIPv6 =
      ((s.range isIPv6).map (·.ip.Next)).getD (s.current isIPv6) := by
  cases isIPv6 <;> rfl

theorem Inv.NewStore_Start {inet4Range inet6Range : Option Prefix}
    (h4 : RangeOk false inet4Range) (h6 : RangeOk true inet6Range) (storage : MemoryStorage) :
    ((NewStore inet4Range inet6Range).Start storage none).Inv := by
  change ((NewStore inet4Range inet6Range).startFresh storage).Inv
  refine ⟨?_, MemoryStorage.Inverse.FakeIPReset storage, ?_⟩
  · intro isIPv6
    rw [range_startFresh, last_startFresh, current_startFresh, last_NewStore]
    have hok : RangeOk isIPv6 ((NewStore inet4Range inet6Range).range isIPv6) := by
      cases isIPv6 <;> assumption
    cases hr : (NewStore inet4Range inet6Range).range isIPv6 with
    | none => cases isIPv6 <;> rfl
    | some p =>
      obtain ⟨hfam, hspacious⟩ := hok p (by rw [hr]; rfl)
      exact ⟨hfam, hspacious, rfl, Prefix.cursorOk_ip_Next hspacious⟩
  · intro isIPv6 domain address hload
    cases isIPv6 <;> simp [startFresh, MemoryStorage.FakeIPReset, MemoryStorage.empty,
      MemoryStorage.FakeIPLoadDomain] at hload

/-- A restart from the storage and the metadata an earlier run left keeps the
invariant: the ranges agree, so `Start` takes the saved cursors and the storage as they
are. -/
theorem Inv.restart {prev : Store} (h : prev.Inv) :
    ((NewStore prev.inet4Range prev.inet6Range).Start prev.storage (some prev.Close)).Inv := by
  have hstart : (NewStore prev.inet4Range prev.inet6Range).Start prev.storage (some prev.Close) =
      { prev with
        inet4Last := (prev.inet4Range.map broadcastAddress).getD .zero
        inet6Last := (prev.inet6Range.map broadcastAddress).getD .zero } := by
    simp only [Start, Close, NewStore, and_self, if_true]
  rw [hstart]
  refine ⟨?_, h.inverse, ?_⟩
  · intro isIPv6
    have hfam := h.family isIPv6
    cases isIPv6 <;> simp only [range, last, current] at hfam ⊢ <;> revert hfam
    · cases prev.inet4Range with
      | none => exact id
      | some p => exact fun ⟨hf, hs, _, hc⟩ => ⟨hf, hs, rfl, hc⟩
    · cases prev.inet6Range with
      | none => exact id
      | some p => exact fun ⟨hf, hs, _, hc⟩ => ⟨hf, hs, rfl, hc⟩
  · intro isIPv6 domain address hload
    have := h.stored isIPv6 domain address hload
    cases isIPv6 <;> exact this

/-- The stores a transport with the given ranges can be running: started fresh over any
storage, restarted from what an earlier run saved, and driven by any operations in
between. -/
inductive Reachable (inet4Range inet6Range : Option Prefix) : Store → Prop
  | start (storage : MemoryStorage) :
    Reachable inet4Range inet6Range ((NewStore inet4Range inet6Range).Start storage none)
  | restart {prev : Store} : Reachable inet4Range inet6Range prev →
    Reachable inet4Range inet6Range
      ((NewStore inet4Range inet6Range).Start prev.storage (some prev.Close))
  | step {s : Store} (op : StoreOp) : Reachable inet4Range inet6Range s →
    Reachable inet4Range inet6Range (s.step op)

theorem Reachable.inv {inet4Range inet6Range : Option Prefix}
    (h4 : RangeOk false inet4Range) (h6 : RangeOk true inet6Range) {s : Store}
    (hs : Reachable inet4Range inet6Range s) :
    s.Inv ∧ ∀ isIPv6, s.range isIPv6 = (NewStore inet4Range inet6Range).range isIPv6 := by
  induction hs with
  | start storage =>
    exact ⟨Inv.NewStore_Start h4 h6 storage, range_startFresh _ storage⟩
  | @restart prev _ ih =>
    obtain ⟨hinv, hrange⟩ := ih
    have h4' : prev.inet4Range = inet4Range := hrange false
    have h6' : prev.inet6Range = inet6Range := hrange true
    subst h4' h6'
    refine ⟨hinv.restart, fun isIPv6 => ?_⟩
    simp only [Start, Close, NewStore, and_self, if_true]
    cases isIPv6 <;> rfl
  | step op _ ih =>
    exact ⟨ih.1.step op, fun isIPv6 => by rw [range_step, ih.2]⟩

theorem Reachable.Create_mem_range {inet4Range inet6Range : Option Prefix}
    (h4 : RangeOk false inet4Range) (h6 : RangeOk true inet6Range) {s s' : Store}
    (hs : Reachable inet4Range inet6Range s) {domain : String} {isIPv6 : Bool} {address : Addr}
    (hc : s.Create domain isIPv6 = .ok (address, s')) :
    ∃ p ∈ (NewStore inet4Range inet6Range).range isIPv6,
      p.Contains address = true ∧ address ≠ p.ip ∧ address ≠ p.ip.Next ∧
        address ≠ broadcastAddress p := by
  obtain ⟨hinv, hrange⟩ := hs.inv h4 h6
  obtain ⟨p, hp, hwin⟩ := (hinv.Create hc).2
  have hspacious := (hinv.of_range hp).2.1
  rw [hrange] at hp
  exact ⟨p, hp, hwin.contains hspacious⟩

/-- 198.18.0.0/32, a range of one address. -/
def singleAddressRange : Prefix :=
  .v4 0xC6120000#32 32

/-- On 198.18.0.0/32 the first address handed out is 198.18.0.2, outside the range: the
cursor starts on 198.18.0.1, its successor lies outside, and the wrap target, the range's
address plus two, is not checked against the range. -/
theorem Create_singleAddressRange_outside :
    ∃ s', ((NewStore (some singleAddressRange) none).Start MemoryStorage.empty none).Create
        "a" false = .ok (.v4 0xC6120002#32, s') ∧
      singleAddressRange.Contains (.v4 0xC6120002#32) = false :=
  ⟨_, rfl, rfl⟩

/-- 255.255.255.254/31, the two last IPv4 addresses. -/
def topPairRange : Prefix :=
  .v4 0xFFFFFFFE#32 31

/-- On 255.255.255.254/31 the first address handed out is the zero address: the cursor
starts on 255.255.255.255, and both its successor and the wrap target are the zero
address. The zero address is not IPv4, so the storage files the domain in the IPv6 map,
and the address map and the IPv4 domain map stop being inverse. -/
theorem Create_topPairRange_zero :
    ∃ s', ((NewStore (some topPairRange) none).Start MemoryStorage.empty none).Create
        "a" false = .ok (.zero, s') ∧
      s'.Lookup .zero = some "a" ∧ s'.storage.FakeIPLoadDomain "a" Addr.zero.Is6 = none :=
  ⟨_, rfl, rfl, rfl⟩

/-! ### Consecutive creations -/

/-- Creations for domains of one family, one after another; the first error ends them. -/
def createAll (s : Store) (isIPv6 : Bool) : List String → Except String (List Addr × Store)
  | [] => .ok ([], s)
  | domain :: domains =>
    match s.Create domain isIPv6 with
    | .ok (address, s') =>
      match s'.createAll isIPv6 domains with
      | .ok (addresses, s'') => .ok (address :: addresses, s'')
      | .error e => .error e
    | .error e => .error e

theorem Create_of_fresh {domain : String} {isIPv6 : Bool}
    (hload : s.storage.FakeIPLoadDomain domain isIPv6 = none)
    (hvalid : (s.current isIPv6).IsValid = true) :
    s.Create domain isIPv6 =
      let address := nextAddress (s.range isIPv6) (s.last isIPv6) (s.current isIPv6)
      .ok (address,
        { s.setCurrent isIPv6 address with storage := s.storage.FakeIPStore address domain }) := by
  rw [Create_eq, hload]
  simp only [hvalid, if_true]

theorem mod_succ_add (j n k : Nat) : (j % n + 1 + k) % n = (j + (k + 1)) % n := by
  rw [show j % n + 1 + k = j % n + (k + 1) by omega, Nat.mod_add_mod]

/-- Creations for pairwise distinct domains that have no address of the family all
succeed, and the `k`-th of them hands out the window's address at the cursor's position
plus `k`, modulo the window. -/
theorem Inv.createAll_val {isIPv6 : Bool} {p : Prefix} (h : s.Inv) (hp : s.range isIPv6 = some p)
    {domains : List String} (hds : domains.Nodup)
    (hfresh : ∀ domain ∈ domains, s.storage.FakeIPLoadDomain domain isIPv6 = none) :
    ∃ addresses s', s.createAll isIPv6 domains = .ok (addresses, s') ∧
      (∀ address ∈ addresses, p.SameFamily address = true) ∧
      addresses.map Addr.val = (List.range domains.length).map
        (fun k => p.base + 2 + ((s.current isIPv6).val - (p.base + 1) + k) % (p.size - 3)) := by
  induction domains generalizing s with
  | nil => exact ⟨[], s, rfl, by simp, rfl⟩
  | cons domain domains ih =>
    obtain ⟨hnotin, hds⟩ := List.nodup_cons.mp hds
    obtain ⟨_, hspacious, hlast, hcursor⟩ := h.of_range hp
    have hc := Create_of_fresh (hfresh domain List.mem_cons_self)
      (p.IsValid_of_SameFamily hcursor.1)
    have hnext := nextAddress_spec hspacious hcursor
    rw [← hlast, ← hp] at hnext
    set a := nextAddress (s.range isIPv6) (s.last isIPv6) (s.current isIPv6)
    set s₁ : Store := { s.setCurrent isIPv6 a with storage := s.storage.FakeIPStore a domain }
    have hc₁ : s.Create domain isIPv6 = .ok (a, s₁) := hc
    have hinv₁ : s₁.Inv := (h.Create hc₁).1
    have hp₁ : s₁.range isIPv6 = some p := by
      simp only [s₁, range_withStorage, range_setCurrent, hp]
    have hcur₁ : s₁.current isIPv6 = a := by
      simp only [s₁, current_withStorage, current_setCurrent, if_true]
    have hfresh₁ : ∀ domain' ∈ domains, s₁.storage.FakeIPLoadDomain domain' isIPv6 = none := by
      intro domain' hmem
      have hne : domain' ≠ domain := fun heq => hnotin (heq ▸ hmem)
      have hold := hfresh domain' (List.mem_cons_of_mem domain hmem)
      simp only [s₁]
      rw [MemoryStorage.FakeIPLoadDomain_FakeIPStore _ (p.IsValid_of_SameFamily hnext.1.1)]
      simp [hne, hold]
    obtain ⟨addresses, s', hall, hfams, hvals⟩ := ih hinv₁ hp₁ hds hfresh₁
    refine ⟨a :: addresses, s', ?_, ?_, ?_⟩
    · simp only [createAll, hc₁, hall]
    · rintro address (_ | ⟨_, hmem⟩)
      · exact hnext.1.1
      · exact hfams address hmem
    · have hj : a.val - (p.base + 1) = ((s.current isIPv6).val - (p.base + 1)) % (p.size - 3) + 1 := by
        rw [hnext.2]
        omega
      rw [List.map_cons, hvals, hcur₁, hj, List.length_cons, List.range_succ_eq_map,
        List.map_cons, List.map_map, hnext.2, Nat.add_zero]
      congr 1
      refine List.map_congr_left fun k _ => ?_
      simp only [Function.comp_apply, mod_succ_add]

/-- As long as no more domains are created than the window has addresses, creations for
pairwise distinct domains without an address of the family hand out pairwise distinct
addresses. -/
theorem Inv.createAll_nodup {isIPv6 : Bool} {p : Prefix} (h : s.Inv)
    (hp : s.range isIPv6 = some p) {domains : List String} (hds : domains.Nodup)
    (hfresh : ∀ domain ∈ domains, s.storage.FakeIPLoadDomain domain isIPv6 = none)
    (hlen : domains.length + 3 ≤ p.size) :
    ∃ addresses s', s.createAll isIPv6 domains = .ok (addresses, s') ∧
      addresses.length = domains.length ∧ addresses.Nodup := by
  obtain ⟨addresses, s', hall, _, hvals⟩ := h.createAll_val hp hds hfresh
  have hlength := congrArg List.length hvals
  simp only [List.length_map, List.length_range] at hlength
  refine ⟨addresses, s', hall, hlength, List.Nodup.of_map Addr.val ?_⟩
  rw [hvals]
  refine List.Nodup.map_on ?_ List.nodup_range
  intro x hx y hy hxy
  simp only [List.mem_range] at hx hy
  have hmod : (_ + x) % (p.size - 3) = (_ + y) % (p.size - 3) := Nat.add_left_cancel hxy
  exact (Nat.ModEq.add_left_cancel' _ hmod).eq_of_lt_of_lt (by omega) (by omega)

end Store

end SingBox
