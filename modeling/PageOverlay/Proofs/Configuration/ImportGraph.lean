import PageOverlay.Configuration.Imports

/-!
# What is reached through imports

The tree of imports holds exactly the registered names that can be reached from the sheet, each of
them once, whatever cycles there are. The walk keeps this up by one relation between the names
visited before and after it. The name under which the importing configuration is registered itself
is not marked as visited, so a cycle reaches it like any other name.
-/

set_option autoImplicit false

namespace PageOverlay

open Sheet (Import)

namespace Repository

theorem mem_names_of_find? {repo : Repository} {n : String} {c : Configuration}
    (h : repo.find? n = some c) : n ∈ repo.names := by
  obtain ⟨e, he, -⟩ := Option.map_eq_some_iff.mp h
  have hn : e.1 = n := by simpa using List.find?_some he
  exact List.mem_map.mpr ⟨e, List.mem_of_find?_eq_some he, hn⟩

end Repository

namespace Configuration

def Asks (c : Configuration) (n : String) : Prop := ∃ i ∈ c.sheet.imports, i.name = n

/-- Registered names that the configuration imports, itself or through others. -/
inductive Reaches (repo : Repository) (c : Configuration) : String → Prop
  | direct {n : String} {d : Configuration} (ha : c.Asks n) (hd : repo.find? n = some d) :
      Reaches repo c n
  | through {m n : String} {b d : Configuration} (hm : Reaches repo c m)
      (hb : repo.find? m = some b) (ha : b.Asks n) (hd : repo.find? n = some d) :
      Reaches repo c n

variable {repo : Repository} {c d : Configuration} {n : String}

theorem Reaches.of_import {m : String} (ha : c.Asks m) (hm : repo.find? m = some d)
    (h : Reaches repo d n) : Reaches repo c n := by
  induction h with
  | direct hda hn => exact .through (.direct ha hm) hm hda hn
  | through _ hb hba hn ih => exact .through ih hb hba hn

/-- How many registered names were not visited yet. -/
def unseen (repo : Repository) (visited : List String) : Nat :=
  repo.names.countP fun n => !visited.contains n

theorem unseen_le {v v' : List String} (h : v ⊆ v') : unseen repo v' ≤ unseen repo v := by
  apply List.countP_mono_left
  intro n _ hn
  have hn' : n ∉ v' := by simpa using hn
  have hv : n ∉ v := fun hm => hn' (h hm)
  simpa using hv

theorem countP_lt {α : Type} {p q : α → Bool} {l : List α} (h : ∀ a ∈ l, p a → q a) {a : α}
    (ha : a ∈ l) (hq : q a) (hp : ¬ p a) : l.countP p < l.countP q := by
  obtain ⟨s, t, rfl⟩ := List.append_of_mem ha
  have hs : s.countP p ≤ s.countP q := List.countP_mono_left fun b hb => h b (by simp [hb])
  have ht : t.countP p ≤ t.countP q := List.countP_mono_left fun b hb => h b (by simp [hb])
  rw [List.countP_append, List.countP_append, List.countP_cons_of_neg hp,
    List.countP_cons_of_pos hq]
  omega

theorem unseen_lt {v v' : List String} (h : v ⊆ v') (hd : repo.find? n = some d) (hn : n ∉ v)
    (hn' : n ∈ v') : unseen repo v' < unseen repo v := by
  apply countP_lt (a := n) _ (Repository.mem_names_of_find? hd)
  · simpa using hn
  · simpa using hn'
  · intro m _ hm
    have hm' : m ∉ v' := by simpa using hm
    have hv : m ∉ v := fun hmv => hm' (h hmv)
    simpa using hv

theorem fresh_not_visited (visited : List String) (is : List Import) :
    ∀ i ∈ fresh visited is, i.name ∉ visited := by
  induction is generalizing visited with
  | nil => simp [fresh]
  | cons j is ih =>
    intro i hi
    rw [fresh] at hi
    split at hi
    · exact ih visited i hi
    · next hj =>
      rcases List.mem_cons.mp hi with rfl | hi
      · simpa using hj
      · intro hv
        exact ih _ i hi (by simp [hv])

theorem fresh_nodup (visited : List String) (is : List Import) :
    ((fresh visited is).map (·.name)).Nodup := by
  induction is generalizing visited with
  | nil => simp [fresh]
  | cons j is ih =>
    rw [fresh]
    split
    · exact ih visited
    · rw [List.map_cons, List.nodup_cons]
      refine ⟨?_, ih _⟩
      intro hj
      obtain ⟨i, hi, hij⟩ := List.mem_map.mp hj
      exact fresh_not_visited _ is i hi (by simp [hij])

theorem fresh_subset (visited : List String) (is : List Import) : fresh visited is ⊆ is := by
  induction is generalizing visited with
  | nil => simp [fresh]
  | cons j is ih =>
    rw [fresh]
    split
    · exact List.subset_cons_of_subset _ (ih visited)
    · exact List.cons_subset_cons _ (ih _)

theorem mem_visited_or_fresh (visited : List String) (is : List Import) :
    ∀ i ∈ is, i.name ∈ visited ++ (fresh visited is).map (·.name) := by
  induction is generalizing visited with
  | nil => simp
  | cons j is ih =>
    intro i hi
    rw [fresh]
    rcases List.mem_cons.mp hi with rfl | hi
    · split
      · next hv => exact List.mem_append_left _ (by simpa using hv)
      · simp
    · split
      · exact ih visited i hi
      · simpa using ih (visited ++ [j.name]) i hi

theorem mem_located {is : List Import} {i : Import} :
    (i, d) ∈ located repo is ↔ i ∈ is ∧ repo.find? i.name = some d := by
  simp [located, List.mem_filterMap]

theorem located_names_nodup {is : List Import} (h : (is.map (·.name)).Nodup) :
    ((located repo is).map (·.1.name)).Nodup := by
  have hs : ((located repo is).map (·.1.name)).Sublist (is.map (·.name)) := by
    induction is with
    | nil => simp [located]
    | cons i is ih =>
      have htail := ih (List.nodup_cons.mp h).2
      simp only [located, List.filterMap_cons] at htail ⊢
      cases repo.find? i.name with
      | none => exact htail.trans (by simp)
      | some d => exact htail.cons_cons _
  exact h.sublist hs

end Configuration

namespace ImportTree

def top : ImportTree → String
  | .node i _ _ => i.name

def deeper : List ImportTree → List String
  | [] => []
  | .node _ _ children :: ts => allNames children ++ deeper ts

theorem allNames_perm (ts : List ImportTree) : (allNames ts).Perm (ts.map top ++ deeper ts) := by
  induction ts with
  | nil => simp [allNames, deeper]
  | cons t ts ih =>
    cases t with
    | node i c children =>
      simp only [allNames, names, deeper, List.map_cons, top, List.cons_append, List.perm_cons]
      calc (allNames children ++ allNames ts).Perm
            (allNames children ++ (ts.map top ++ deeper ts)) := ih.append_left _
        _ |>.Perm (ts.map top ++ (allNames children ++ deeper ts)) := by
            have hswap : (allNames children ++ ts.map top).Perm (ts.map top ++ allNames children) :=
              List.perm_append_comm
            simpa using hswap.append_right (deeper ts)

mutual

def Follows (repo : Repository) : ImportTree → Prop
  | .node i c children => repo.find? i.name = some c ∧ AllFollow repo children

def AllFollow (repo : Repository) : List ImportTree → Prop
  | [] => True
  | t :: ts => Follows repo t ∧ AllFollow repo ts

end

theorem allFollow_cons {repo : Repository} {i : Import} {c : Configuration}
    {children ts : List ImportTree} :
    AllFollow repo (.node i c children :: ts) ↔
      repo.find? i.name = some c ∧ AllFollow repo children ∧ AllFollow repo ts := by
  rw [AllFollow, Follows, and_assoc]

end ImportTree

namespace Configuration

open ImportTree (allNames deeper top AllFollow allFollow_cons)

variable {repo : Repository} {c d : Configuration} {n : String}

/-- What a part of the walk adds to the visited names: of those that are registered it found each
once. -/
structure Grown (repo : Repository) (before after found : List String) : Prop where
  kept : before ⊆ after
  once : found.Nodup
  mem_iff : ∀ n, n ∈ found ↔ n ∈ after ∧ n ∉ before ∧ ∃ d, repo.find? n = some d

theorem Grown.refl (v : List String) : Grown repo v v [] where
  kept := List.Subset.refl v
  once := List.nodup_nil
  mem_iff n := by
    constructor
    · intro hn
      cases hn
    · rintro ⟨hn, hv, -⟩
      exact absurd hn hv

theorem Grown.trans {u v w ns ms : List String} (h : Grown repo u v ns) (g : Grown repo v w ms) :
    Grown repo u w (ns ++ ms) where
  kept := List.Subset.trans h.kept g.kept
  once := by
    rw [List.nodup_append]
    refine ⟨h.once, g.once, ?_⟩
    intro a ha b hb hab
    subst hab
    exact ((g.mem_iff a).mp hb).2.1 ((h.mem_iff a).mp ha).1
  mem_iff n := by
    rw [List.mem_append, h.mem_iff, g.mem_iff]
    constructor
    · rintro (⟨hv, hu, hd⟩ | ⟨hw, hv, hd⟩)
      · exact ⟨g.kept hv, hu, hd⟩
      · exact ⟨hw, fun hu => hv (h.kept hu), hd⟩
    · rintro ⟨hw, hu, hd⟩
      by_cases hv : n ∈ v
      · exact .inl ⟨hv, hu, hd⟩
      · exact .inr ⟨hw, hv, hd⟩

theorem Grown.perm {u v ns ms : List String} (h : Grown repo u v ns) (hp : ns.Perm ms) :
    Grown repo u v ms where
  kept := h.kept
  once := hp.nodup_iff.mp h.once
  mem_iff n := by rw [← hp.mem_iff, h.mem_iff]

theorem grown_fresh (repo : Repository) (visited : List String) (is : List Import) :
    Grown repo visited (visited ++ (fresh visited is).map (·.name))
      ((located repo (fresh visited is)).map (·.1.name)) where
  kept := List.subset_append_left _ _
  once := located_names_nodup (fresh_nodup visited is)
  mem_iff n := by
    constructor
    · intro hn
      obtain ⟨⟨i, d⟩, hi, rfl⟩ := List.mem_map.mp hn
      obtain ⟨hi, hd⟩ := mem_located.mp hi
      exact ⟨List.mem_append_right _ (List.mem_map.mpr ⟨i, hi, rfl⟩),
        fresh_not_visited visited is i hi, d, hd⟩
    · rintro ⟨hn, hv, d, hd⟩
      rcases List.mem_append.mp hn with hn | hn
      · exact absurd hn hv
      · obtain ⟨i, hi, rfl⟩ := List.mem_map.mp hn
        exact List.mem_map.mpr ⟨(i, d), mem_located.mpr ⟨hi, hd⟩, rfl⟩

theorem unseen_fresh_lt {visited : List String} {is : List Import}
    (h : located repo (fresh visited is) ≠ []) :
    unseen repo (visited ++ (fresh visited is).map (·.name)) < unseen repo visited := by
  obtain ⟨e, es, he⟩ := List.exists_cons_of_ne_nil h
  have hg := grown_fresh repo visited is
  obtain ⟨hi, hv, b, hb⟩ := (hg.mem_iff e.1.name).mp (by rw [he]; simp)
  exact unseen_lt hg.kept hb hv hi

def Closed (repo : Repository) (found visited : List String) : Prop :=
  ∀ m ∈ found, ∀ d, repo.find? m = some d → ∀ n, d.Asks n → n ∈ visited

structure Unfolded (repo : Repository) (c : Configuration) (visited : List String)
    (r : List ImportTree × List String) : Prop where
  grown : Grown repo visited r.2 (allNames r.1)
  asked : ∀ n, c.Asks n → n ∈ r.2
  closed : Closed repo (allNames r.1) r.2
  reached : ∀ n ∈ allNames r.1, Reaches repo c n
  follows : AllFollow repo r.1

/-- The result of unfolding one located import after the other. Their own names were visited
before, so that only deeper ones are found. -/
structure UnfoldedEach (repo : Repository) (is : List (Import × Configuration))
    (visited : List String) (r : List ImportTree × List String) : Prop where
  tops : r.1.map top = is.map (·.1.name)
  grown : Grown repo visited r.2 (deeper r.1)
  asked : ∀ e ∈ is, ∀ n, e.2.Asks n → n ∈ r.2
  closed : Closed repo (deeper r.1) r.2
  reached : ∀ n ∈ deeper r.1, ∃ e ∈ is, Reaches repo e.2 n
  follows : AllFollow repo r.1

theorem unfoldEach_spec {unfold : List String → Configuration → List ImportTree × List String}
    {levels : Nat}
    (hu : ∀ v c, unseen repo v < levels → Unfolded repo c v (unfold v c))
    {is : List (Import × Configuration)} (his : ∀ e ∈ is, repo.find? e.1.name = some e.2)
    {visited : List String} (hv : is ≠ [] → unseen repo visited < levels) :
    UnfoldedEach repo is visited (unfoldEach unfold visited is) := by
  induction is generalizing visited with
  | nil =>
    exact ⟨rfl, .refl visited, by simp, by simp [Closed, unfoldEach, deeper],
      by simp [unfoldEach, deeper], trivial⟩
  | cons e is ih =>
    obtain ⟨i, d⟩ := e
    have hlevel := hv (by simp)
    have hd := hu visited d hlevel
    have hlevel' : unseen repo (unfold visited d).2 < levels :=
      Nat.lt_of_le_of_lt (unseen_le hd.grown.kept) hlevel
    have hrest := ih (fun e he => his e (by simp [he])) fun _ => hlevel'
    rw [unfoldEach]
    constructor
    · simpa [top] using hrest.tops
    · exact hd.grown.trans hrest.grown
    · intro e he n hn
      rcases List.mem_cons.mp he with rfl | he
      · exact hrest.grown.kept (hd.asked n hn)
      · exact hrest.asked e he n hn
    · intro m hm b hb n hn
      rcases List.mem_append.mp hm with hm | hm
      · exact hrest.grown.kept (hd.closed m hm b hb n hn)
      · exact hrest.closed m hm b hb n hn
    · intro n hn
      rcases List.mem_append.mp hn with hn | hn
      · exact ⟨(i, d), by simp, hd.reached n hn⟩
      · obtain ⟨e, he, hr⟩ := hrest.reached n hn
        exact ⟨e, by simp [he], hr⟩
    · exact allFollow_cons.mpr ⟨his (i, d) (by simp), hd.follows, hrest.follows⟩

/-- Names are found in the order of the levels, and they stand in the tree in the order of its
branches. -/
theorem UnfoldedEach.allNames_perm {is : List (Import × Configuration)} {visited : List String}
    {r : List ImportTree × List String} (h : UnfoldedEach repo is visited r) :
    (is.map (·.1.name) ++ deeper r.1).Perm (allNames r.1) := by
  rw [← h.tops]
  exact (ImportTree.allNames_perm r.1).symm

theorem UnfoldedEach.unfolded {visited : List String} {r : List ImportTree × List String}
    (h : UnfoldedEach repo (located repo (fresh visited c.sheet.imports))
      (visited ++ (fresh visited c.sheet.imports).map (·.name)) r) :
    Unfolded repo c visited r := by
  have hmem : ∀ n, n ∈ allNames r.1 ↔
      (∃ e ∈ located repo (fresh visited c.sheet.imports), e.1.name = n) ∨ n ∈ deeper r.1 := by
    intro n
    rw [← h.allNames_perm.mem_iff, List.mem_append, List.mem_map]
  have hasks : ∀ e ∈ located repo (fresh visited c.sheet.imports),
      c.Asks e.1.name ∧ repo.find? e.1.name = some e.2 := by
    intro e he
    obtain ⟨hi, hd⟩ := mem_located.mp he
    exact ⟨⟨e.1, fresh_subset _ _ hi, rfl⟩, hd⟩
  constructor
  · exact ((grown_fresh repo visited c.sheet.imports).trans h.grown).perm h.allNames_perm
  · rintro n ⟨i, hi, rfl⟩
    exact h.grown.kept (mem_visited_or_fresh visited _ i hi)
  · intro m hm d hd n hn
    rcases (hmem m).mp hm with ⟨e, he, rfl⟩ | hm
    · have hde : d = e.2 := Option.some.inj (hd.symm.trans (hasks e he).2)
      exact h.asked e he n (hde ▸ hn)
    · exact h.closed m hm d hd n hn
  · intro n hn
    rcases (hmem n).mp hn with ⟨e, he, rfl⟩ | hn
    · exact .direct (hasks e he).1 (hasks e he).2
    · obtain ⟨e, he, hr⟩ := h.reached n hn
      exact .of_import (hasks e he).1 (hasks e he).2 hr
  · exact h.follows

theorem unfold_spec (levels : Nat) (visited : List String) (c : Configuration)
    (h : unseen repo visited < levels) :
    Unfolded repo c visited (unfold repo levels visited c) := by
  induction levels generalizing visited c with
  | zero => omega
  | succ levels ih =>
    have hlevel : located repo (fresh visited c.sheet.imports) ≠ [] →
        unseen repo (visited ++ (fresh visited c.sheet.imports).map (·.name)) < levels :=
      fun hne => Nat.lt_of_lt_of_le (unseen_fresh_lt hne) (Nat.le_of_lt_succ h)
    exact (unfoldEach_spec ih (fun e he => (mem_located.mp he).2) hlevel).unfolded

theorem imports_unfolded (repo : Repository) (c : Configuration) :
    ∃ visited, Unfolded repo c [] (c.imports repo, visited) := by
  refine ⟨(unfold repo (repo.length + 1) [] c).2, unfold_spec _ [] c ?_⟩
  simp [unseen, Repository.names]

theorem imports_nodup (repo : Repository) (c : Configuration) :
    (allNames (c.imports repo)).Nodup := by
  obtain ⟨visited, h⟩ := imports_unfolded repo c
  exact h.grown.once

theorem imports_follow (repo : Repository) (c : Configuration) :
    AllFollow repo (c.imports repo) := by
  obtain ⟨visited, h⟩ := imports_unfolded repo c
  exact h.follows

/-- The tree of imports holds what can be reached and nothing else. -/
theorem mem_imports : n ∈ allNames (c.imports repo) ↔ Reaches repo c n := by
  obtain ⟨visited, h⟩ := imports_unfolded repo c
  have hmem : ∀ m d, m ∈ visited → repo.find? m = some d → m ∈ allNames (c.imports repo) := by
    intro m d hm hd
    exact (h.grown.mem_iff m).mpr ⟨hm, by simp, d, hd⟩
  constructor
  · exact h.reached n
  · intro hr
    induction hr with
    | direct ha hd => exact hmem _ _ (h.asked _ ha) hd
    | through _ hb ha hd ih => exact hmem _ _ (h.closed _ ih _ hb _ ha) hd

end Configuration
end PageOverlay
