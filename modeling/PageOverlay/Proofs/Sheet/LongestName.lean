import PageOverlay.Proofs.Sheet.Scoping

/-!
# The name that a word begins with

A bare word stands for the longest of its beginnings that has a value, and these are tried from the
whole word down. To gather the names that are known anywhere and to try the longest of them first
comes to the same: a name without a value in the scope is passed over, and it does not matter from
how many places a name was gathered.
-/

set_option autoImplicit false

namespace PageOverlay.Scopes

open Sheet (Declaration)

/-- The longest beginning of a word that has a value in the scope, with the value and what the word
goes on with. -/
structure LongestName (s : Scopes) (scope : String) (word n : List Char) (value : String)
    (rest : List Char) : Prop where
  split : n ++ rest = word
  nonempty : n ≠ []
  resolves : s.lookup (String.ofList n) scope = some value
  longest : ∀ m, m <+: word → n.length < m.length → s.lookup (String.ofList m) scope = none

variable {s t : Scopes} {scope value : String} {before after word n rest : List Char}

namespace LongestName

theorem isPrefix (h : s.LongestName scope word n value rest) : n <+: word := ⟨rest, h.split⟩

theorem length_le (h : s.LongestName scope word n value rest) {m : List Char} (hm : m <+: word)
    (hresolves : s.lookup (String.ofList m) scope ≠ none) : m.length ≤ n.length :=
  Nat.le_of_not_lt fun hlt => hresolves (h.longest m hm hlt)

theorem unique {m rest' : List Char} {value' : String} (h : s.LongestName scope word n value rest)
    (h' : s.LongestName scope word m value' rest') : (n, value, rest) = (m, value', rest') := by
  have hnm : n.length ≤ m.length := h'.length_le h.isPrefix (by simp [h.resolves])
  have hmn : m.length ≤ n.length := h.length_le h'.isPrefix (by simp [h'.resolves])
  obtain rfl : n = m :=
    (List.prefix_of_prefix_length_le h.isPrefix h'.isPrefix hnm).eq_of_length
      (Nat.le_antisymm hnm hmn)
  obtain rfl : value = value' := Option.some.inj (h.resolves.symm.trans h'.resolves)
  obtain rfl : rest = rest' := List.append_cancel_left (h.split.trans h'.split.symm)
  rfl

theorem congr (h : s.LongestName scope word n value rest)
    (hst : ∀ name, t.lookup name scope = s.lookup name scope) :
    t.LongestName scope word n value rest :=
  ⟨h.split, h.nonempty, (hst _).trans h.resolves,
    fun m hm hlt => (hst _).trans (h.longest m hm hlt)⟩

end LongestName

theorem longestName_of_lookupFrom (h : s.lookupFrom scope before after = some (n, value, rest)) :
    ∃ kept, rest = kept ++ after ∧ s.LongestName scope before.reverse n value kept := by
  induction before generalizing after with
  | nil => cases h
  | cons c before ih =>
    rw [lookupFrom] at h
    split at h
    · next v hv =>
      cases h
      refine ⟨[], rfl, List.append_nil _, by simp, hv, fun m hm hlt => ?_⟩
      exact absurd hm.length_le (Nat.not_le_of_lt hlt)
    · next hnone =>
      obtain ⟨kept, rfl, hlongest⟩ := ih h
      refine ⟨kept ++ [c], by simp, ?_, hlongest.nonempty, hlongest.resolves, fun m hm hlt => ?_⟩
      · rw [List.reverse_cons, ← hlongest.split, List.append_assoc]
      · rw [List.reverse_cons] at hm hnone
        rcases List.prefix_concat_iff.mp hm with rfl | hm
        · exact hnone
        · exact hlongest.longest m hm hlt

theorem lookupFrom_eq_none_iff :
    s.lookupFrom scope before after = none ↔
      ∀ m, m <+: before.reverse → m ≠ [] → s.lookup (String.ofList m) scope = none := by
  induction before generalizing after with
  | nil => simp [lookupFrom]
  | cons c before ih =>
    rw [lookupFrom, List.reverse_cons]
    split
    · next v hv =>
      refine ⟨fun h => (by cases h), fun h => ?_⟩
      rw [h _ List.prefix_rfl (by simp)] at hv
      cases hv
    · next hnone =>
      rw [ih]
      refine ⟨fun h m hm hne => ?_, fun h m hm => h m (hm.trans (List.prefix_append _ _))⟩
      rcases List.prefix_concat_iff.mp hm with rfl | hm
      · exact hnone
      · exact h m hm hne

theorem lookupPrefix_eq_none_iff :
    s.lookupPrefix word scope = none ↔
      ∀ n, n <+: word → n ≠ [] → s.lookup (String.ofList n) scope = none := by
  rw [lookupPrefix, lookupFrom_eq_none_iff, List.reverse_reverse]

theorem lookupPrefix_eq_some_iff :
    s.lookupPrefix word scope = some (n, value, rest) ↔ s.LongestName scope word n value rest := by
  have hsound {r : List Char × String × List Char} (hr : s.lookupPrefix word scope = some r) :
      s.LongestName scope word r.1 r.2.1 r.2.2 := by
    obtain ⟨kept, hkept, hlongest⟩ := longestName_of_lookupFrom hr
    rw [List.append_nil] at hkept
    rwa [List.reverse_reverse, ← hkept] at hlongest
  refine ⟨hsound, fun h => ?_⟩
  cases hr : s.lookupPrefix word scope with
  | none =>
    have hnone := lookupPrefix_eq_none_iff.mp hr n h.isPrefix h.nonempty
    rw [h.resolves] at hnone
    cases hnone
  | some r => exact congrArg some ((hsound hr).unique h)

theorem lookupPrefix_congr (h : ∀ name, t.lookup name scope = s.lookup name scope)
    (word : List Char) : t.lookupPrefix word scope = s.lookupPrefix word scope := by
  ext r
  rw [lookupPrefix_eq_some_iff, lookupPrefix_eq_some_iff]
  exact ⟨fun hr => hr.congr fun name => (h name).symm, fun hr => hr.congr h⟩

/-- All names that are known anywhere, whatever their scope. -/
def known (s : Scopes) : List String :=
  s.values.map (·.1) ++ s.declared.map (·.name) ++ (s.imported ++ s.globals).map (·.name)

/-- Those of the names that the word begins with, the longest first. -/
def beginnings (names : List String) (word : List Char) : List String :=
  (names.filter fun n => !n.isEmpty && n.toList.isPrefixOf word).mergeSort fun m n =>
    decide (n.utf8ByteSize ≤ m.utf8ByteSize)

def longestAmong (s : Scopes) (scope : String) (names : List String) (word : List Char) :
    Option (String × String) :=
  (beginnings names word).findSome? fun n => (s.lookup n scope).map fun value => (n, value)

variable {names : List String}

theorem mem_known_of_lookup {name : String} (h : s.lookup name scope = some value) :
    name ∈ s.known := by
  simp only [known, List.mem_append, List.mem_map]
  cases lookup_eq_some_iff.mp h with
  | given first => exact .inl (.inl ⟨_, first.mem, rfl⟩)
  | declared _ nearest => exact .inl (.inr ⟨_, nearest.mem, nearest.visible.name_eq⟩)
  | imported _ _ first => exact .inr ⟨_, .inl first.mem, first.name_eq⟩
  | ofGlobal _ _ _ first => exact .inr ⟨_, .inr first.mem, first.name_eq⟩

theorem mem_beginnings {name : String} :
    name ∈ beginnings names word ↔ name ∈ names ∧ name ≠ "" ∧ name.toList <+: word := by
  simp [beginnings, List.isPrefixOf_iff_prefix]

theorem beginnings_descend (names : List String) (word : List Char) :
    (beginnings names word).Pairwise fun m n => n.utf8ByteSize ≤ m.utf8ByteSize := by
  refine (List.pairwise_mergeSort ?_ ?_ _).imp fun h => of_decide_eq_true h
  · intro a b c hab hbc
    simp only [decide_eq_true_eq] at *
    omega
  · intro a b
    simp only [Bool.or_eq_true, decide_eq_true_eq]
    omega

theorem eq_of_isPrefix {m n : String} (h : m.toList <+: n.toList)
    (hsize : n.utf8ByteSize ≤ m.utf8ByteSize) : m = n := by
  obtain ⟨cs, hcs⟩ := h
  have hn : n = m ++ String.ofList cs := by
    rw [← String.toList_inj, ← hcs]
    simp
  have hnone : (String.ofList cs).utf8ByteSize = 0 := by
    rw [hn, String.utf8ByteSize_append] at hsize
    omega
  rw [hn, String.utf8ByteSize_eq_zero_iff.mp hnone, String.append_empty]

theorem exists_of_findSome?_descending {α β : Type} {size : α → Nat} {f : α → Option β}
    {xs : List α} {b : β} (hxs : xs.Pairwise fun x y => size y ≤ size x)
    (h : xs.findSome? f = some b) :
    ∃ x ∈ xs, f x = some b ∧ ∀ y ∈ xs, f y ≠ none → size y ≤ size x := by
  obtain ⟨before, x, after, rfl, hx, hbefore⟩ := List.findSome?_eq_some_iff.mp h
  refine ⟨x, by simp, hx, fun y hy hyields => ?_⟩
  obtain ⟨-, hafter, -⟩ := List.pairwise_append.mp hxs
  rcases List.mem_append.mp hy with hy | hy
  · exact absurd (hbefore y hy) hyields
  · rcases List.mem_cons.mp hy with rfl | hy
    · exact Nat.le_refl _
    · exact (List.pairwise_cons.mp hafter).1 y hy

theorem LongestName.longestAmong (h : s.LongestName scope word n value rest)
    (hn : String.ofList n ∈ names) :
    s.longestAmong scope names word = some (String.ofList n, value) := by
  have hmem : String.ofList n ∈ beginnings names word :=
    mem_beginnings.mpr ⟨hn, by simpa using h.nonempty, by simpa using h.isPrefix⟩
  cases hfound : s.longestAmong scope names word with
  | none =>
    have hnone := List.findSome?_eq_none_iff.mp hfound _ hmem
    simp [h.resolves] at hnone
  | some found =>
    obtain ⟨m, hm, hfm, hlargest⟩ :=
      exists_of_findSome?_descending (beginnings_descend names word) hfound
    obtain ⟨v, hv, rfl⟩ := Option.map_eq_some_iff.mp hfm
    have hprefix : m.toList <+: word := (mem_beginnings.mp hm).2.2
    have hlength : m.toList.length ≤ n.length := h.length_le hprefix (by simp [hv])
    have hwithin : m.toList <+: (String.ofList n).toList := by
      rw [String.toList_ofList]
      exact List.prefix_of_prefix_length_le hprefix h.isPrefix hlength
    obtain rfl : m = String.ofList n :=
      eq_of_isPrefix hwithin (hlargest _ hmem (by simp [h.resolves]))
    rw [h.resolves] at hv
    rw [Option.some.inj hv]

theorem longestAmong_eq (h : ∀ n value, s.lookup n scope = some value → n ∈ names)
    (word : List Char) :
    s.longestAmong scope names word =
      (s.lookupPrefix word scope).map fun r => (String.ofList r.1, r.2.1) := by
  cases hr : s.lookupPrefix word scope with
  | none =>
    refine List.findSome?_eq_none_iff.mpr fun m hm => ?_
    obtain ⟨-, hne, hprefix⟩ := mem_beginnings.mp hm
    have hnone := lookupPrefix_eq_none_iff.mp hr m.toList hprefix (by simpa using hne)
    rw [String.ofList_toList] at hnone
    rw [hnone, Option.map_none]
  | some r =>
    have hlongest := lookupPrefix_eq_some_iff.mp hr
    exact hlongest.longestAmong (h _ _ hlongest.resolves)

/-- A word stands for the longest of its beginnings that has a value, and for none only when none
has one. It is found among the names that are known anywhere, and whatever else is gathered with
these, and however often, makes no difference. What is declared in sections that are not around the
scope has no part in it. -/
theorem lookupPrefix_longest (s : Scopes) (scope : String) (word : List Char) :
    (∀ n value rest, s.lookupPrefix word scope = some (n, value, rest) ↔
      s.LongestName scope word n value rest) ∧
    (s.lookupPrefix word scope = none ↔
      ∀ n, n <+: word → n ≠ [] → s.lookup (String.ofList n) scope = none) ∧
    s.longestAmong scope s.known word =
      (s.lookupPrefix word scope).map (fun r => (String.ofList r.1, r.2.1)) ∧
    (∀ names, (∀ n value, s.lookup n scope = some value → n ∈ names) →
      s.longestAmong scope names word = s.longestAmong scope s.known word) ∧
    ∀ ds, SameAround scope s.declared ds →
      ({ s with declared := ds } : Scopes).lookupPrefix word scope = s.lookupPrefix word scope := by
  have hknown : s.longestAmong scope s.known word =
      (s.lookupPrefix word scope).map fun r => (String.ofList r.1, r.2.1) :=
    longestAmong_eq (fun _ _ h => mem_known_of_lookup h) word
  exact ⟨fun _ _ _ => lookupPrefix_eq_some_iff, lookupPrefix_eq_none_iff, hknown,
    fun _ h => (longestAmong_eq h word).trans hknown.symm,
    fun _ h => lookupPrefix_congr (lookup_of_same h) word⟩

theorem lookupPrefix_longest_elsewhere :
    let declare (name value scope : String) : Declaration := ⟨name, value, "", scope, 0⟩
    let s : Scopes := {
      values := [("ab", "given")]
      declared := [declare "a" "top" "", declare "ab" "own" "", declare "abc" "aside" "Aside"]
      globals := [.ofGlobal "ab" "global"] }
    let ds := [declare "abcd" "beside" "Part.Inn", declare "a" "top" "", declare "ab" "own" ""]
    s.LongestName "Part.Inner" "abcd".toList "ab".toList "given" "cd".toList ∧
      s.longestAmong "Part.Inner" ("abcd" :: s.known) "abcd".toList =
        s.longestAmong "Part.Inner" s.known "abcd".toList ∧
      SameAround "Part.Inner" s.declared ds ∧
      ({ s with declared := ds } : Scopes).lookupPrefix "abcd".toList "Part.Inner" =
        s.lookupPrefix "abcd".toList "Part.Inner" := by
  intro declare s ds
  have hsame : SameAround "Part.Inner" s.declared ds := by decide +kernel
  obtain ⟨hsome, -, -, hgathered, hdeclared⟩ :=
    lookupPrefix_longest s "Part.Inner" "abcd".toList
  exact ⟨(hsome _ _ _).mp (by decide +kernel),
    hgathered _ fun _ _ h => List.mem_cons_of_mem _ (mem_known_of_lookup h), hsame,
    hdeclared ds hsame⟩

end PageOverlay.Scopes
