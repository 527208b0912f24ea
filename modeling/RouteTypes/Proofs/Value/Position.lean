import RouteTypes.Proofs.Value.Entries
import RouteTypes.Proofs.Value.Part

/-!
# Positions in values

A position says step by step to which item or entry of a value to go, so it tells equal parts of a
value apart. Where entries are laid over a mapping, `covers` says for each of the positions that
there are then whose value stands there: that of the mapping or of one of the entries
(`covers_cases`).
-/

namespace RouteTypes

namespace Value

/-- The part of a value at a position. -/
def atPosition? (value : Value) : List Nat → Option Value
  | [] => some value
  | index :: rest =>
    match value with
    | .list items => (items[index]?).bind fun item => item.atPosition? rest
    | .tuple items => (items[index]?).bind fun item => item.atPosition? rest
    | .mapping entries => (entries[index]?).bind fun entry => entry.2.atPosition? rest
    | .scalar _ => none
    | .set _ => none

section

variable {part value : Value} {index : Nat} {rest : List Nat}

@[simp] theorem atPosition?_nil : value.atPosition? [] = some value := by
  rw [atPosition?]

@[simp] theorem atPosition?_scalar (scalar : Scalar) :
    (Value.scalar scalar).atPosition? (index :: rest) = none := by
  rw [atPosition?]

@[simp] theorem atPosition?_set (items : List Scalar) :
    (Value.set items).atPosition? (index :: rest) = none := by
  rw [atPosition?]

@[simp] theorem atPosition?_list {items : List Value} :
    (Value.list items).atPosition? (index :: rest) = some part ↔
      ∃ item, items[index]? = some item ∧ item.atPosition? rest = some part := by
  rw [atPosition?, Option.bind_eq_some_iff]

@[simp] theorem atPosition?_tuple {items : List Value} :
    (Value.tuple items).atPosition? (index :: rest) = some part ↔
      ∃ item, items[index]? = some item ∧ item.atPosition? rest = some part := by
  rw [atPosition?, Option.bind_eq_some_iff]

@[simp] theorem atPosition?_mapping {entries : Entries} :
    (Value.mapping entries).atPosition? (index :: rest) = some part ↔
      ∃ entry, entries[index]? = some entry ∧ entry.2.atPosition? rest = some part := by
  rw [atPosition?, Option.bind_eq_some_iff]

end

end Value

/-! ## Positions of a mapping over which entries are laid -/

namespace Entries

variable {α β : Type} {base additions : List (Scalar × α)} {sources : List (Scalar × β)}

/-- For every position of a mapping over which entries are laid, the value of the entry that comes
to stand there, or nothing where the mapping keeps its own value. -/
def covers (base : List (Scalar × α)) (additions : List (Scalar × β)) : List (Option β) :=
  (putAll (base.map fun entry => (entry.1, none))
    (additions.map fun entry => (entry.1, some entry.2))).map Prod.snd

theorem exists_of_covers {index : Nat} {source : β}
    (covered : (covers base sources)[index]? = some (some source)) :
    ∃ entry ∈ sources, entry.2 = source := by
  rw [covers, List.getElem?_map, Option.map_eq_some_iff] at covered
  obtain ⟨entry, found, isSource⟩ := covered
  rcases getElem?_putAll found with own | ⟨addition, member, same⟩
  · rw [List.getElem?_map, Option.map_eq_some_iff] at own
    obtain ⟨_, _, rfl⟩ := own
    cases isSource
  · obtain ⟨origin, isOrigin, rfl⟩ := List.mem_map.1 member
    exact ⟨origin, isOrigin, Option.some.inj (same.symm.trans isSource)⟩

/-- The entries of a mapping over which others are laid, each with what `covers` says of it, where
the others have the keys of the entries that cover. -/
theorem exists_joined (base : List (Scalar × α))
    (keys : sources.map Prod.fst = additions.map Prod.fst) :
    ∃ joined : List (Scalar × α × Option β),
      joined.map (fun entry => (entry.1, entry.2.1)) = putAll base additions ∧
        joined.map (fun entry => entry.2.2) = covers base sources ∧
        ∀ (index : Nat) (entry : Scalar × α × Option β), joined[index]? = some entry →
          base[index]? = some (entry.1, entry.2.1) ∧ entry.2.2 = none ∨
            ∃ (place : Nat) (left : place < sources.length) (right : place < additions.length),
              entry.2 = (additions[place].2, some sources[place].2) := by
  have length : sources.length = additions.length := by simpa using congrArg List.length keys
  have second : (sources.zip additions).map Prod.snd = additions :=
    List.map_snd_zip (Nat.le_of_eq length.symm)
  have named : (sources.zip additions).map (fun pair => (pair.2.1, some pair.1.2)) =
      sources.map fun entry => (entry.1, some entry.2) := by
    refine List.ext_getElem (by simp [length]) fun place inPairs inSources => ?_
    have same := List.getElem_of_eq keys (by simpa using inSources)
    simpa using same.symm
  refine ⟨putAll (base.map fun entry => (entry.1, entry.2, none))
    ((sources.zip additions).map fun pair => (pair.2.1, pair.2.2, some pair.1.2)), ?_, ?_, ?_⟩
  · rw [map_putAll _ _ Prod.fst, List.map_map, List.map_map]
    exact congr (congrArg putAll (List.map_id base)) second
  · have both := congrArg (List.map Prod.snd) (map_putAll
      (base.map fun entry => (entry.1, entry.2, (none : Option β)))
      ((sources.zip additions).map fun pair => (pair.2.1, pair.2.2, some pair.1.2)) Prod.snd)
    rw [covers, ← named]
    simpa [Function.comp_def] using both
  · intro index entry found
    rcases getElem?_putAll found with own | ⟨addition, member, same⟩
    · rw [List.getElem?_map, Option.map_eq_some_iff] at own
      obtain ⟨_, stands, rfl⟩ := own
      exact .inl ⟨stands, rfl⟩
    · obtain ⟨pair, isPair, rfl⟩ := List.mem_map.1 member
      obtain ⟨place, inPairs, rfl⟩ := List.getElem_of_mem isPair
      rw [List.length_zip, Nat.lt_min] at inPairs
      exact .inr ⟨place, inPairs.1, inPairs.2, by simp [same]⟩

/-- What stands at a position of a mapping over which entries are laid: what stood there before,
or the value of one of these entries. -/
theorem covers_cases (keys : sources.map Prod.fst = additions.map Prod.fst) {index : Nat}
    {entry : Scalar × α} (found : (putAll base additions)[index]? = some entry) :
    (covers base sources)[index]? = some none ∧ base[index]? = some entry ∨
      ∃ (place : Nat) (left : place < sources.length) (right : place < additions.length),
        (covers base sources)[index]? = some (some sources[place].2) ∧
          entry.2 = additions[place].2 := by
  obtain ⟨joined, values, covered, origins⟩ := exists_joined base keys
  rw [← values, List.getElem?_map, Option.map_eq_some_iff] at found
  obtain ⟨both, stands, rfl⟩ := found
  rw [← covered, List.getElem?_map, stands]
  rcases origins index both stands with ⟨own, isOwn⟩ | ⟨place, left, right, same⟩
  · exact .inl ⟨congrArg some isOwn, own⟩
  · exact .inr ⟨place, left, right, by simp [same], by simp [same]⟩

/-- Where no entry comes to stand, a mapping keeps its own. -/
theorem getElem?_putAll_of_uncovered (keys : sources.map Prod.fst = additions.map Prod.fst)
    {index : Nat} {entry : Scalar × α} (stands : base[index]? = some entry)
    (uncovered : ((covers base sources)[index]?).join = none) :
    (putAll base additions)[index]? = some entry := by
  obtain ⟨inBase, _⟩ := List.getElem?_eq_some_iff.1 stands
  have known := List.getElem?_eq_getElem
    (Nat.lt_of_lt_of_le inBase (length_le_putAll base additions))
  rcases covers_cases keys known with ⟨_, own⟩ | ⟨_, _, _, covered, _⟩
  · rw [known, ← own, stands]
  · rw [covered] at uncovered
    cases uncovered

/-- Where an entry comes to stand, it is the one with the key of the covering entry. -/
theorem exists_of_covered (keys : sources.map Prod.fst = additions.map Prod.fst) {index : Nat}
    {source : β} (covered : (covers base sources)[index]? = some (some source)) :
    ∃ (entry : Scalar × α) (place : Nat) (left : place < sources.length)
      (right : place < additions.length), (putAll base additions)[index]? = some entry ∧
        sources[place].2 = source ∧ entry.2 = additions[place].2 := by
  have inside : index < (putAll base additions).length := by
    obtain ⟨joined, values, isCovered, _⟩ := exists_joined base keys
    obtain ⟨inCovers, _⟩ := List.getElem?_eq_some_iff.1 covered
    rw [← isCovered, List.length_map] at inCovers
    rwa [← values, List.length_map]
  have known := List.getElem?_eq_getElem inside
  rcases covers_cases keys known with ⟨uncovered, _⟩ | ⟨place, left, right, other, same⟩
  · cases uncovered.symm.trans covered
  · rw [covered, Option.some_inj, Option.some_inj] at other
    exact ⟨_, place, left, right, known, other.symm, same⟩

end Entries

end RouteTypes
