import SingBox.OutboundStart

/-!
# Changing the outbounds of a manager

`Manager.Create` and `Manager.Remove` of `adapter/outbound/manager.go` on a manager in any
state. Both keep the map in agreement with the list (`Reachable.consistent`). The reverse
index `dependByTag` is another matter: `Create` never takes the entries of the outbound it
replaces out of it, and `Remove` checks it only after it has taken the outbound out of the
map, the list and the default, so the manager it leaves behind with the error is not the
one it was called on (`Manager.Remove_replacedDependent`).
-/

namespace SingBox

namespace OutboundManager

namespace Manager

theorem Create_of_not_started {o : Outbound} {m : Manager} (htag : o.Tag ≠ "")
    (hstarted : m.started = false) :
    Create o m = .ok { m with
      outbounds := m.outbounds.filter (·.Tag != o.Tag) ++ [o]
      outboundByTag := mapSet m.outboundByTag o.Tag o
      dependByTag := appendDependBy o.Tag m.dependByTag o.Dependencies
      defaultOutbound :=
        if o.Tag = m.defaultTag ∨ (m.defaultTag = "" ∧ m.defaultOutbound = none) then some o
        else m.defaultOutbound } := by
  unfold Create
  simp only [htag, hstarted, if_false, Bool.false_eq_true, bind, Except.bind, pure,
    Except.pure]
  split <;> rfl

/-- The index that `Remove` erases, in a list whose tags are distinct, is the one element
with the tag. -/
theorem mem_eraseIdx_findIdx? {l : List Outbound} {tag : String} {i : Nat}
    (hnodup : (l.map Outbound.Tag).Nodup) (hi : l.findIdx? (·.Tag == tag) = some i)
    (o : Outbound) : o ∈ l.eraseIdx i ↔ o ∈ l ∧ o.Tag ≠ tag := by
  induction l generalizing i with
  | nil => simp at hi
  | cons b l ih =>
    rw [List.map_cons, List.nodup_cons] at hnodup
    by_cases hb : b.Tag = tag
    · rw [List.findIdx?_cons, if_pos (beq_iff_eq.mpr hb)] at hi
      obtain rfl : i = 0 := (Option.some.inj hi).symm
      rw [List.eraseIdx_cons_zero]
      constructor
      · intro ho
        refine ⟨List.mem_cons_of_mem b ho, fun htag => hnodup.1 ?_⟩
        rw [hb, ← htag]
        exact List.mem_map_of_mem ho
      · rintro ⟨ho, htag⟩
        rcases List.mem_cons.mp ho with rfl | ho
        · exact absurd hb htag
        · exact ho
    · rw [List.findIdx?_cons, if_neg (by simpa using hb)] at hi
      obtain ⟨j, hj, rfl⟩ := Option.map_eq_some_iff.mp hi
      rw [List.eraseIdx_cons_succ, List.mem_cons, List.mem_cons, ih hnodup.2 hj]
      constructor
      · rintro (rfl | ⟨ho, htag⟩)
        · exact ⟨.inl rfl, hb⟩
        · exact ⟨.inr ho, htag⟩
      · rintro ⟨rfl | ho, htag⟩
        · exact .inl rfl
        · exact .inr ⟨ho, htag⟩

/-- What `Remove` leaves of the list and the map, whatever it returns: both as they were, the
map without the tag after the panic on a tag missing from the list, or both without the
element with the tag. -/
theorem Remove_lists (tag : String) (m : Manager) :
    ((Remove tag m).2.outbounds = m.outbounds ∧
      (Remove tag m).2.outboundByTag = m.outboundByTag) ∨
    ((Remove tag m).1 = .error (.panic "invalid inbound index") ∧
      (∃ o, m.outboundByTag.lookup tag = some o) ∧
      m.outbounds.findIdx? (·.Tag == tag) = none) ∨
    (∃ i, m.outbounds.findIdx? (·.Tag == tag) = some i ∧
      (Remove tag m).2.outbounds = m.outbounds.eraseIdx i ∧
      (Remove tag m).2.outboundByTag = mapDelete m.outboundByTag tag) := by
  unfold Remove
  split
  · exact .inl ⟨rfl, rfl⟩
  · rename_i o ho
    split
    · rename_i hidx
      exact .inr (.inl ⟨rfl, ⟨o, ho⟩, hidx⟩)
    · rename_i i hidx
      refine .inr (.inr ⟨i, hidx, ?_⟩)
      dsimp only
      split_ifs
      · exact ⟨rfl, rfl⟩
      · split <;> exact ⟨rfl, rfl⟩
      · exact ⟨rfl, rfl⟩

/-- `Remove` keeps the map in agreement with the list, whatever it returns. -/
theorem Consistent.remove {m : Manager} (hm : Consistent m) (tag : String) :
    Consistent (Remove tag m).2 := by
  rcases Remove_lists tag m with ⟨hl, hmap⟩ | ⟨-, ⟨o, ho⟩, hidx⟩ | ⟨i, hidx, hl, hmap⟩
  · exact ⟨hl ▸ hm.nodup, hl ▸ hmap ▸ hm.index, hl ▸ hmap ▸ hm.complete⟩
  · obtain ⟨rfl, hmem⟩ := hm.index tag o ho
    have hnone := List.findIdx?_eq_none_iff.mp hidx o hmem
    simp at hnone
  · have hmem := mem_eraseIdx_findIdx? hm.nodup hidx
    refine ⟨?_, ?_, ?_⟩
    · rw [hl]
      exact ((List.eraseIdx_sublist _ _).map _).nodup hm.nodup
    · intro k o ho
      rw [hmap, lookup_mapDelete] at ho
      split_ifs at ho with hk
      obtain ⟨rfl, hin⟩ := hm.index k o ho
      exact ⟨rfl, hl ▸ (hmem o).mpr ⟨hin, hk⟩⟩
    · intro o ho
      rw [hl, hmem] at ho
      rw [hmap, lookup_mapDelete, if_neg ho.2]
      exact hm.complete o ho.1

/-- The managers a run of `Create` and `Remove` calls reaches from a new manager. -/
inductive Reachable : Manager → Prop
  | new (defaultTag : String) : Reachable (NewManager defaultTag)
  | create {m m' : Manager} (outbound : Outbound) :
    Reachable m → Create outbound m = .ok m' → Reachable m'
  | remove {m : Manager} (tag : String) : Reachable m → Reachable (Remove tag m).2

/-- After every call, the list holds one outbound per tag and the map sends each tag to it. -/
theorem Reachable.consistent {m : Manager} (hm : Reachable m) : Consistent m := by
  induction hm with
  | new defaultTag => exact consistent_NewManager defaultTag
  | create outbound _ hcreate ih => exact ih.create hcreate
  | remove tag _ ih => exact ih.remove tag

theorem Remove_of_dependedBy {tag : String} {m : Manager} {o : Outbound} {i : Nat}
    {d : String} {ds : List String} (ho : m.outboundByTag.lookup tag = some o)
    (hi : m.outbounds.findIdx? (·.Tag == tag) = some i)
    (hdep : m.dependByTag.lookup tag = some (d :: ds)) :
    Remove tag m = (.error (.new ("outbound[" ++ tag ++ "] is depended by " ++
      ", ".intercalate (d :: ds))), removed tag i m) := by
  simp [Remove, ho, hi, removed, hdep]

/-- Replacing an outbound leaves its dependencies in `dependByTag`: the outbound now under
its tag depends on nothing, yet `Remove` of its old dependency fails on it, and the failed
`Remove` has already taken that dependency out of the map. -/
theorem Remove_replacedDependent (defaultTag : String) (x a a' : Outbound) (hx : x.Tag ≠ "")
    (ha : a.Tag ≠ "") (hxa : x.Tag ≠ a.Tag) (hxdeps : x.Dependencies = [])
    (hadeps : a.Dependencies = [x.Tag]) (ha' : a'.Tag = a.Tag)
    (ha'deps : a'.Dependencies = []) :
    ∃ m₁ m₂ m₃, Create x (NewManager defaultTag) = .ok m₁ ∧ Create a m₁ = .ok m₂ ∧
      Create a' m₂ = .ok m₃ ∧
      m₃.outboundByTag.lookup a.Tag = some a' ∧ m₃.dependByTag.lookup x.Tag = some [a.Tag] ∧
      (Remove x.Tag m₃).1 =
        .error (.new ("outbound[" ++ x.Tag ++ "] is depended by " ++ a.Tag)) ∧
      m₃.outboundByTag.lookup x.Tag = some x ∧
      (Remove x.Tag m₃).2.outboundByTag.lookup x.Tag = none := by
  obtain ⟨m₁, h₁⟩ : ∃ m₁, Create x (NewManager defaultTag) = .ok m₁ :=
    ⟨_, Create_of_not_started hx rfl⟩
  have e₁ := (Create_eq_ok h₁).2
  obtain ⟨m₂, h₂⟩ : ∃ m₂, Create a m₁ = .ok m₂ :=
    ⟨_, Create_of_not_started ha (by simp [e₁, NewManager])⟩
  have e₂ := (Create_eq_ok h₂).2
  obtain ⟨m₃, h₃⟩ : ∃ m₃, Create a' m₂ = .ok m₃ :=
    ⟨_, Create_of_not_started (ha' ▸ ha) (by simp [e₂, e₁, NewManager])⟩
  have e₃ := (Create_eq_ok h₃).2
  have hlist : m₃.outbounds = [x, a'] := by simp [e₃, e₂, e₁, NewManager, hxa, ha']
  have hmap : m₃.outboundByTag = [(a.Tag, a'), (x.Tag, x)] := by
    simp [e₃, e₂, e₁, NewManager, mapSet, hxa, ha']
  have hdep : m₃.dependByTag = [(x.Tag, [a.Tag])] := by
    simp [e₃, e₂, e₁, NewManager, appendDependBy, hxdeps, hadeps, ha'deps, mapSet]
  have hx₃ : m₃.outboundByTag.lookup x.Tag = some x := by
    simp [hmap, List.lookup_cons, beq_false_of_ne hxa]
  have hidx : m₃.outbounds.findIdx? (·.Tag == x.Tag) = some 0 := by
    rw [hlist, List.findIdx?_cons, if_pos (beq_self_eq_true _)]
  have hremove := Remove_of_dependedBy hx₃ hidx
    (by simp [hdep] : m₃.dependByTag.lookup x.Tag = some [a.Tag])
  refine ⟨m₁, m₂, m₃, h₁, h₂, h₃, by simp [hmap], by simp [hdep], ?_, hx₃, ?_⟩
  · rw [hremove]
    rfl
  · rw [hremove]
    simp [removed, lookup_mapDelete]

/-- An outbound with a tag and dependencies, whose start and close succeed. -/
def plainOutbound (tag : String) (dependencies : List String) : Outbound :=
  ⟨"direct", tag, dependencies, fun _ => .ok (), .ok ()⟩

theorem Remove_replacedDependent_plain :
    (plainOutbound "x" []).Tag ≠ "" ∧ (plainOutbound "a" ["x"]).Tag ≠ "" ∧
      (plainOutbound "x" []).Tag ≠ (plainOutbound "a" ["x"]).Tag ∧
      (plainOutbound "x" []).Dependencies = [] ∧
      (plainOutbound "a" ["x"]).Dependencies = [(plainOutbound "x" []).Tag] ∧
      (plainOutbound "a" []).Tag = (plainOutbound "a" ["x"]).Tag ∧
      (plainOutbound "a" []).Dependencies = [] ∧
      ∃ m₁ m₂ m₃, Create (plainOutbound "x" []) (NewManager "") = .ok m₁ ∧
        Create (plainOutbound "a" ["x"]) m₁ = .ok m₂ ∧
        Create (plainOutbound "a" []) m₂ = .ok m₃ ∧
        m₃.outboundByTag.lookup "a" = some (plainOutbound "a" []) ∧
        m₃.dependByTag.lookup "x" = some ["a"] ∧
        (Remove "x" m₃).1 = .error (.new ("outbound[" ++ "x" ++ "] is depended by " ++ "a")) ∧
        m₃.outboundByTag.lookup "x" = some (plainOutbound "x" []) ∧
        (Remove "x" m₃).2.outboundByTag.lookup "x" = none :=
  ⟨by decide, by decide, by decide, rfl, rfl, rfl, rfl,
    Remove_replacedDependent "" (plainOutbound "x" []) (plainOutbound "a" ["x"])
      (plainOutbound "a" []) (by decide) (by decide) (by decide) rfl rfl rfl rfl⟩

end Manager

end OutboundManager

end SingBox
