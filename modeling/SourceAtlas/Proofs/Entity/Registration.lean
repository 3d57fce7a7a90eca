import SourceAtlas.Proofs.Entity.Index

/-!
# Runs of registrations

Whole runs of registrations from an empty index, in which the identifiers of several owners may
come in any order. The keys that a name is given are `0, 2, 3, …`, so a run goes through as long as
each name has fewer than `2 ^ 32` identifiers. What the index tells afterwards is what was returned
along the way.

One registration adds the next key of its name (`IsKeyed.register`). A run is described from any
index on (`Registers`), and the statements about runs follow by induction on the calls.
-/

namespace SourceAtlas.IdentifierIndex

/-- Registers identifiers in order, each for its own owner. -/
def registerEach (index : IdentifierIndex) :
    List (EntityId × Identifier) → Option (List Identifier × IdentifierIndex)
  | [] => some ([], index)
  | (owner, i) :: calls => do
    let (keyed, index) ← index.register owner i
    let (others, index) ← index.registerEach calls
    return (keyed :: others, index)

theorem registerAll_eq (index : IdentifierIndex) (owner : EntityId) (is : List Identifier) :
    index.registerAll owner is = index.registerEach (is.map (owner, ·)) := by
  induction is generalizing index with
  | nil => rfl
  | cons i is ih =>
    rw [registerAll, List.map_cons, registerEach]
    simp only [ih]

theorem registerEach_append (index : IdentifierIndex)
    (calls others : List (EntityId × Identifier)) :
    index.registerEach (calls ++ others) = (index.registerEach calls).bind fun first =>
      (first.2.registerEach others).map fun second => (first.1 ++ second.1, second.2) := by
  induction calls generalizing index with
  | nil => cases h : index.registerEach others <;> simp [registerEach, h]
  | cons call calls ih =>
    rw [List.cons_append, registerEach, registerEach]
    cases index.register call.1 call.2 with
    | none => rfl
    | some answer =>
      simp only [Option.bind_eq_bind, Option.bind_some, ih, Option.bind_assoc, Option.pure_def]
      congr 1
      funext first
      cases first.2.registerEach others <;> rfl

/-! ## Keys -/

/-- The keys of the first identifiers of a name: `0, 2, 3, …`, up to their number. -/
def keys : Nat → List Nat
  | 0 => []
  | n + 1 => 0 :: List.range' 2 n

/-- The key that follows those of some identifiers. -/
def keyAfter (n : Nat) : Nat := if n = 0 then 0 else n + 1

theorem keys_succ (n : Nat) : keys (n + 1) = keys n ++ [keyAfter n] := by
  cases n with
  | zero => rfl
  | succ n =>
    have hkey : 2 + 1 * n = n + 1 + 1 := by omega
    rw [keys, keys, List.range'_concat, hkey, List.cons_append, keyAfter, if_neg n.succ_ne_zero]

theorem mem_keys {n k : Nat} : k ∈ keys n ↔ k = 0 ∧ 0 < n ∨ 2 ≤ k ∧ k ≤ n := by
  cases n with
  | zero => simp [keys]; omega
  | succ n =>
    rw [keys, List.mem_cons, List.mem_range'_1]
    omega

theorem toNat_max (a b : UInt32) : (max a b).toNat = max a.toNat b.toNat := by
  have hmax : max a b = if a ≤ b then b else a := rfl
  rw [hmax]
  split
  · rename_i hle
    rw [UInt32.le_iff_toNat_le] at hle
    omega
  · rename_i hle
    rw [UInt32.le_iff_toNat_le] at hle
    omega

/-- One more than the largest key, where 1 is skipped, is the number of the identifiers and one. -/
theorem toNat_max_keys {ks : List UInt32} {n : Nat} {m : UInt32}
    (hks : ks.map UInt32.toNat = keys (n + 1)) (hmax : ks.max? = some m) :
    (max m 1).toNat = n + 1 := by
  obtain ⟨hmem, hle⟩ := List.max?_eq_some_iff.1 hmax
  have hm : m.toNat ∈ keys (n + 1) := hks ▸ List.mem_map_of_mem hmem
  rw [toNat_max, UInt32.toNat_one]
  rw [mem_keys] at hm
  rcases Nat.eq_zero_or_pos n with rfl | hn
  · omega
  · -- The number itself is one of the keys.
    have hlast : n + 1 ∈ ks.map UInt32.toNat := by
      rw [hks, mem_keys]
      omega
    obtain ⟨k, hk, hkn⟩ := List.mem_map.1 hlast
    have := UInt32.le_iff_toNat_le.1 (hle k hk)
    omega

theorem nextKey_of_keys {ks : List UInt32} {n : Nat} (hks : ks.map UInt32.toNat = keys n)
    (hn : n + 1 < UInt32.size) : ∃ key, nextKey ks = some key ∧ key.toNat = keyAfter n := by
  cases n with
  | zero =>
    rw [List.map_eq_nil_iff.1 hks]
    exact ⟨0, rfl, rfl⟩
  | succ n =>
    cases hmax : ks.max? with
    | none =>
      rw [List.max?_eq_none_iff.1 hmax] at hks
      cases hks
    | some m =>
      have hm := toNat_max_keys hks hmax
      refine ⟨max m 1 + 1, ?_, ?_⟩
      · rw [nextKey, hmax]
        simp only [hm, if_pos hn]
      · rw [UInt32.toNat_add, hm, keyAfter, if_neg n.succ_ne_zero]
        exact Nat.mod_eq_of_lt hn

/-- A name that has used up the largest key has none left. -/
theorem nextKey_eq_none {ks : List UInt32} {n : Nat} (hks : ks.map UInt32.toNat = keys n)
    (hn : ¬ n + 1 < UInt32.size) : nextKey ks = none := by
  cases n with
  | zero => exact absurd (by decide) hn
  | succ n =>
    cases hmax : ks.max? with
    | none =>
      rw [List.max?_eq_none_iff.1 hmax] at hks
      cases hks
    | some m =>
      rw [nextKey, hmax]
      simp only [toNat_max_keys hks hmax, if_neg hn]

theorem toNat_nextKey {ks : List UInt32} {n : Nat} {key : UInt32}
    (hks : ks.map UInt32.toNat = keys n) (hkey : nextKey ks = some key) :
    key.toNat = keyAfter n := by
  by_cases hn : n + 1 < UInt32.size
  · obtain ⟨key', hkey', hnat⟩ := nextKey_of_keys hks hn
    cases hkey.symm.trans hkey'
    exact hnat
  · rw [nextKey_eq_none hks hn] at hkey
    cases hkey

/-! ## One registration -/

/-- A well-formed index in which every name has the keys `0, 2, 3, …`, in this order. -/
structure IsKeyed (index : IdentifierIndex) : Prop extends index.WellFormed where
  keys : ∀ name, (index.byName name).map (·.key.toNat) = keys (index.byName name).length

theorem isKeyed_empty : empty.IsKeyed := ⟨wellFormed_empty, fun _ => rfl⟩

variable {index index' : IdentifierIndex}

theorem IsKeyed.map_key (h : index.IsKeyed) (name : Text) :
    ((index.byName name).map Identifier.key).map UInt32.toNat =
      IdentifierIndex.keys (index.byName name).length := by
  rw [List.map_map]
  exact h.keys name

/-- A name that has a key left gives it to the next identifier. -/
theorem IsKeyed.exists_register (h : index.IsKeyed) {i : Identifier}
    (hfew : (index.byName i.name).length + 1 < UInt32.size) (owner : EntityId) :
    ∃ keyed index', index.register owner i = some (keyed, index') := by
  obtain ⟨key, hkey, -⟩ := nextKey_of_keys (h.map_key i.name) hfew
  refine ⟨{ i with key }, index.insert owner { i with key }, ?_⟩
  rw [IdentifierIndex.register, hkey]
  rfl

/-- What registering does to an index: the identifier gets the next key of its name, and is put
in. -/
theorem IsKeyed.register (h : index.IsKeyed) {owner : EntityId} {i keyed : Identifier}
    (hreg : index.register owner i = some (keyed, index')) :
    index'.IsKeyed ∧ keyed = { i with key := keyed.key } ∧
      index' = index.insert owner keyed := by
  obtain ⟨-, hindex, hwf⟩ := h.toWellFormed.register hreg
  rw [IdentifierIndex.register] at hreg
  obtain ⟨key, hkey, heq⟩ := Option.bind_eq_some_iff.1 hreg
  cases heq
  refine ⟨⟨hwf, fun name => ?_⟩, rfl, rfl⟩
  rw [byName_insert]
  split
  · rename_i hname
    subst hname
    rw [List.map_append, h.keys, List.length_append, List.length_singleton, keys_succ,
      ← toNat_nextKey (h.map_key i.name) hkey]
    rfl
  · rw [List.append_nil]
    exact h.keys name

/-! ## Whole runs -/

/-- What a run of registrations returns and leaves: each identifier with a key, which is then owned
by the owner of its call. All others keep the owner that they had. -/
structure Registers (index : IdentifierIndex) (calls : List (EntityId × Identifier))
    (returned : List Identifier) (index' : IdentifierIndex) : Prop where
  keyed : index'.IsKeyed
  order : index'.order = index.order ++ returned
  calls : List.Forall₂ (fun call i =>
    i = { call.2 with key := i.key } ∧ index'.owner? i = some call.1) calls returned
  others : ∀ i ∉ returned, index'.owner? i = index.owner? i

variable {calls : List (EntityId × Identifier)} {returned : List Identifier}

theorem IsKeyed.registers (h : index.IsKeyed)
    (hreg : index.registerEach calls = some (returned, index')) :
    Registers index calls returned index' := by
  induction calls generalizing index returned with
  | nil =>
    cases hreg
    exact ⟨h, (List.append_nil _).symm, .nil, fun _ _ => rfl⟩
  | cons call calls ih =>
    rw [registerEach] at hreg
    obtain ⟨⟨first, middle⟩, hfirst, hreg⟩ := Option.bind_eq_some_iff.1 hreg
    obtain ⟨⟨others, last⟩, hothers, heq⟩ := Option.bind_eq_some_iff.1 hreg
    cases heq
    obtain ⟨hmiddle, hkey, rfl⟩ := h.register hfirst
    have hrest := ih hmiddle hothers
    have horder : index'.order = index.order ++ first :: others := by
      rw [hrest.order, IdentifierIndex.insert, List.append_assoc, List.singleton_append]
    -- What comes later differs from the first one, so it stays with its owner.
    have hnew : first ∉ others := by
      have hnodup := hrest.keyed.nodup
      rw [horder] at hnodup
      exact (List.nodup_cons.1 hnodup.of_append_right).1
    refine ⟨hrest.keyed, horder, .cons ⟨hkey, ?_⟩ hrest.calls, ?_⟩
    · rw [hrest.others first hnew, owner?_insert, if_pos rfl]
    · intro i hi
      rw [List.mem_cons, not_or] at hi
      obtain ⟨hne, hi⟩ := hi
      rw [hrest.others i hi, owner?_insert, if_neg hne]

theorem IsKeyed.exists_registerEach (h : index.IsKeyed)
    (hfew : ∀ name, (index.byName name).length +
      (calls.filter (·.2.name == name)).length < UInt32.size) :
    ∃ returned index', index.registerEach calls = some (returned, index') := by
  induction calls generalizing index with
  | nil => exact ⟨[], index, rfl⟩
  | cons call calls ih =>
    obtain ⟨owner, i⟩ := call
    have hroom : (index.byName i.name).length + 1 < UInt32.size := by
      have := hfew i.name
      rw [List.filter_cons_of_pos (by simp), List.length_cons] at this
      omega
    obtain ⟨first, middle, hfirst⟩ := h.exists_register hroom owner
    obtain ⟨hmiddle, hkey, rfl⟩ := h.register hfirst
    have hname : first.name = i.name := by rw [hkey]
    obtain ⟨others, last, hothers⟩ := ih hmiddle fun name => by
      have := hfew name
      rw [byName_insert, hname]
      by_cases hn : name = i.name
      · subst hn
        rw [List.filter_cons_of_pos (by simp), List.length_cons] at this
        rw [if_pos rfl, List.length_append, List.length_singleton]
        omega
      · rw [List.filter_cons_of_neg (by simpa using Ne.symm hn)] at this
        rw [if_neg hn, List.append_nil]
        exact this
    refine ⟨first :: others, last, ?_⟩
    rw [registerEach, hfirst]
    simp only [Option.bind_eq_bind, Option.bind_some, hothers]
    rfl

/-- A run returns as many identifiers of a name as it is called with. -/
theorem Registers.length_filter (h : Registers index calls returned index') (name : Text) :
    (returned.filter (·.name == name)).length = (calls.filter (·.2.name == name)).length := by
  have hfilter := List.rel_filter (p := fun call => call.2.name == name)
    (q := fun i => i.name == name) (fun call i hi => by rw [hi.1]) h.calls
  exact hfilter.length_eq.symm

/-- Registering goes through whenever each name has fewer identifiers than there are keys, whatever
the order of the owners and whatever keys the identifiers come with. The keys of each name are
`0, 2, 3, …`, up to their number, and all that is returned is different. The index then lists what
was returned, in order and by name, and knows the owner of each identifier and of no other. -/
theorem registrations_told_apart (calls : List (EntityId × Identifier))
    (hfew : ∀ name, (calls.filter (·.2.name == name)).length < UInt32.size) :
    ∃ returned index, empty.registerEach calls = some (returned, index) ∧
      (∀ name, (returned.filter (·.name == name)).map (·.key.toNat) =
        keys (calls.filter (·.2.name == name)).length) ∧
      returned.Nodup ∧ index.all = returned ∧
      (∀ name, index.byName name = index.all.filter (·.name == name)) ∧
      List.Forall₂ (fun call i => i = { call.2 with key := i.key } ∧
        index.owner? i = some call.1) calls returned ∧
      ∀ i ∉ returned, index.owner? i = none := by
  have hroom : ∀ name, (empty.byName name).length +
      (calls.filter (·.2.name == name)).length < UInt32.size := by
    intro name
    rw [show (empty.byName name).length = 0 from rfl, Nat.zero_add]
    exact hfew name
  obtain ⟨returned, index, hreg⟩ := isKeyed_empty.exists_registerEach hroom
  have hrun := isKeyed_empty.registers hreg
  have horder : index.order = returned := hrun.order
  have hbyName : ∀ name, index.byName name = returned.filter (·.name == name) := by
    intro name
    rw [hrun.keyed.byName, horder]
  refine ⟨returned, index, hreg, ?_, ?_, horder, ?_, hrun.calls, hrun.others⟩
  · intro name
    rw [← hrun.length_filter name, ← hbyName]
    exact hrun.keyed.keys name
  · rw [← horder]
    exact hrun.keyed.nodup
  · intro name
    rw [hbyName, all, horder]

/-- Two owners that take turns, and come with keys of their own. -/
theorem registrations_told_apart_interleaved :
    let a (rule : Char) : Identifier := ⟨['a'], [rule], 7, false⟩
    let b : Identifier := ⟨['b'], ['r'], 1, true⟩
    let calls : List (EntityId × Identifier) := [(1, a 'r'), (2, a 'r'), (1, b), (1, a 'q')]
    (∀ name, (calls.filter (·.2.name == name)).length < UInt32.size) ∧
      ∃ returned index, empty.registerEach calls = some (returned, index) ∧
        returned.map Identifier.key = [0, 2, 0, 3] ∧ returned.Nodup ∧ index.all = returned ∧
        index.byName ['a'] = index.all.filter (·.name == ['a']) ∧
        index.owner? ⟨['a'], ['r'], 2, false⟩ = some 2 ∧
        index.owner? ⟨['a'], ['r'], 7, false⟩ = none := by
  intro a b calls
  have hfew : ∀ name, (calls.filter (·.2.name == name)).length < UInt32.size := by
    intro name
    exact Nat.lt_of_le_of_lt (List.length_filter_le _ calls) (by decide)
  obtain ⟨returned, index, hreg, -, hnodup, hall, hbyName, hcalls, hothers⟩ :=
    registrations_told_apart calls hfew
  have hkeys : returned = [⟨['a'], ['r'], 0, false⟩, ⟨['a'], ['r'], 2, false⟩,
      ⟨['b'], ['r'], 0, true⟩, ⟨['a'], ['q'], 3, false⟩] := by
    have hsome : (empty.registerEach calls).map Prod.fst = some returned := by
      rw [hreg]
      rfl
    exact Option.some.inj (hsome.symm.trans (by decide))
  refine ⟨hfew, returned, index, hreg, ?_, hnodup, hall, hbyName _, ?_, ?_⟩
  · rw [hkeys]
    rfl
  · rw [hkeys] at hcalls
    have hrest := (List.forall₂_cons.1 hcalls).2
    exact (List.forall₂_cons.1 hrest).1.2
  · apply hothers
    rw [hkeys]
    decide

end SourceAtlas.IdentifierIndex
