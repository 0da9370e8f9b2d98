import PageOverlay.Configuration.Commands
import PageOverlay.Proofs.Sheet.Renumbering

/-!
# What line numbers do not matter for

Variables are looked up by names and scopes, imports by names. The numbers of lines only say which
imports come before which command lines. So numbers that keep this order lead to the same variables,
the same values of options and the same commands.
-/

set_option autoImplicit false

namespace PageOverlay

open Sheet (CommandLine Declaration Import)

namespace Scopes

variable {s t : Scopes}

theorem inner_renumber (f : Nat → Nat) (best : Option Declaration) (d : Declaration) :
    inner (best.map (·.renumber f)) (d.renumber f) = (inner best d).map (·.renumber f) := by
  cases best with
  | none => rfl
  | some b =>
    by_cases h : b.scope.length ≤ d.scope.length <;> simp [inner, Declaration.renumber, h]

theorem foldl_inner_renumber (f : Nat → Nat) (ds : List Declaration)
    (best : Option Declaration) :
    (ds.map (·.renumber f)).foldl inner (best.map (·.renumber f)) =
      (ds.foldl inner best).map (·.renumber f) := by
  induction ds generalizing best with
  | nil => rfl
  | cons d ds ih => rw [List.map_cons, List.foldl_cons, inner_renumber, ih, List.foldl_cons]

theorem nearest?_renumber (f : Nat → Nat) (ds : List Declaration) (name scope : String) :
    nearest? (ds.map (·.renumber f)) name scope =
      (nearest? ds name scope).map (·.renumber f) := by
  rw [nearest?, nearest?, List.filter_map]
  exact foldl_inner_renumber f _ none

def Agree (s t : Scopes) : Prop := ∀ name scope, s.lookup name scope = t.lookup name scope

theorem agree_renumber (f : Nat → Nat) (s : Scopes) :
    Agree { s with declared := s.declared.map (·.renumber f) } s := by
  intro name scope
  simp only [lookup, nearest?_renumber, Option.map_map]
  rfl

theorem Agree.lookupFrom (h : Agree s t) (scope : String) (before after : List Char) :
    s.lookupFrom scope before after = t.lookupFrom scope before after := by
  induction before generalizing after with
  | nil => rfl
  | cons c before ih => simp only [Scopes.lookupFrom, h _ scope, ih]

theorem Agree.placeholder? (h : Agree s t) (scope : String) (cs : List Char) :
    s.placeholder? scope cs = t.placeholder? scope cs := by
  cases cs with
  | nil => rfl
  | cons c rest =>
    simp only [Scopes.placeholder?, lookupPrefix, h _ scope, h.lookupFrom]

theorem Agree.fillIn (h : Agree s t) (scope : String) (fuel : Nat) (cs : List Char) :
    s.fillIn scope fuel cs = t.fillIn scope fuel cs := by
  induction fuel generalizing cs with
  | zero => rfl
  | succ fuel ih =>
    cases cs with
    | nil => rfl
    | cons c cs => simp only [Scopes.fillIn, h.placeholder?, ih]

theorem Agree.substitute (h : Agree s t) (scope text : String) :
    s.substitute scope text = t.substitute scope text := by
  rw [Scopes.substitute, h.fillIn, Scopes.substitute]

end Scopes

namespace ImportTree

def renumber (f : Nat → Nat) : ImportTree → ImportTree
  | .node i c children => .node (i.renumber f) c children

variable (f : Nat → Nat)

theorem allRules_renumber (key : String) (ts : List ImportTree) :
    allRules key (ts.map (renumber f)) = allRules key ts := by
  induction ts with
  | nil => rfl
  | cons t ts ih =>
    cases t with
    | node i c children => rw [List.map_cons, allRules, allRules, ih, renumber, rules, rules]

theorem merged_renumber (vs : List Variable) (ts : List ImportTree) :
    merged vs (ts.map (renumber f)) = merged vs ts := by
  induction ts generalizing vs with
  | nil => rfl
  | cons t ts ih =>
    cases t with
    | node i c children =>
      have hexported : exported (renumber f (.node i c children)) = exported (.node i c children) :=
        rfl
      rw [List.map_cons, merged, merged, ih, hexported]

theorem blocks_renumber (ts : List ImportTree) :
    blocks (ts.map (renumber f)) = (blocks ts).map fun b => (f b.1, b.2) := by
  induction ts with
  | nil => rfl
  | cons t ts ih =>
    cases t with
    | node i c children =>
      rw [List.map_cons, blocks, blocks, ih]
      rfl

section

variable {α β : Type} {line : α → Nat} {p : α → Option β}

theorem takeWhile_mono {γ : Type} {q q' : γ → Bool} (h : ∀ b, q b → q' b) (bs : List γ) :
    bs.takeWhile q ++ (bs.dropWhile q).takeWhile q' = bs.takeWhile q' := by
  induction bs with
  | nil => rfl
  | cons b bs ih =>
    by_cases hb : q b
    · rw [List.takeWhile_cons_of_pos hb, List.dropWhile_cons_of_pos hb, List.cons_append, ih,
        List.takeWhile_cons_of_pos (h b hb)]
    · rw [List.takeWhile_cons_of_neg hb, List.dropWhile_cons_of_neg hb, List.nil_append]

theorem dropWhile_mono {γ : Type} {q q' : γ → Bool} (h : ∀ b, q b → q' b) (bs : List γ) :
    (bs.dropWhile q).dropWhile q' = bs.dropWhile q' := by
  induction bs with
  | nil => rfl
  | cons b bs ih =>
    by_cases hb : q b
    · rw [List.dropWhile_cons_of_pos hb, ih, List.dropWhile_cons_of_pos (h b hb)]
    · rw [List.dropWhile_cons_of_neg hb]

theorem span_map {γ δ : Type} (g : γ → δ) {q : δ → Bool} {q' : γ → Bool} {bs : List γ}
    (h : ∀ b ∈ bs, q (g b) = q' b) :
    (bs.map g).takeWhile q = (bs.takeWhile q').map g ∧
      (bs.map g).dropWhile q = (bs.dropWhile q').map g := by
  induction bs with
  | nil => exact ⟨rfl, rfl⟩
  | cons b bs ih =>
    obtain ⟨htake, hdrop⟩ := ih fun c hc => h c (List.mem_cons_of_mem b hc)
    have hb := h b List.mem_cons_self
    rw [List.map_cons, List.takeWhile_cons, List.takeWhile_cons, List.dropWhile_cons,
      List.dropWhile_cons, hb, htake, hdrop]
    cases q' b <;> exact ⟨rfl, rfl⟩

theorem interleave_before {n : Nat} {as : List α} (h : ∀ a ∈ as, n ≤ line a)
    (blocks : List (Nat × List α)) :
    (blocks.takeWhile fun b => b.1 < n).flatMap (·.2) ++
        interleave line (blocks.dropWhile fun b => b.1 < n) as =
      interleave line blocks as := by
  cases as with
  | nil =>
    rw [interleave, interleave, ← List.flatMap_append, List.takeWhile_append_dropWhile]
  | cons a as =>
    have hlt : ∀ b : Nat × List α, decide (b.1 < n) → decide (b.1 < line a) := by
      intro b hb
      have := h a List.mem_cons_self
      simp only [decide_eq_true_eq] at hb ⊢
      omega
    rw [interleave, interleave, ← List.append_assoc, ← List.flatMap_append, takeWhile_mono hlt,
      dropWhile_mono hlt]

/-- A line stands between the same lines and blocks whatever it is, and these follow each other
without it. -/
theorem exists_interleave {n : Nat} (as : List α) {bs : List α} (h : ∀ b ∈ bs, n ≤ line b)
    (blocks : List (Nat × List α)) :
    ∃ before after, interleave line blocks (as ++ bs) = before ++ after ∧
      ∀ a, line a = n → interleave line blocks (as ++ a :: bs) = before ++ a :: after := by
  induction as generalizing blocks with
  | nil =>
    refine ⟨_, _, (interleave_before h blocks).symm, fun a ha => ?_⟩
    rw [List.nil_append, interleave, ha]
  | cons c as ih =>
    obtain ⟨before, after, hwithout, hwith⟩ := ih (blocks.dropWhile fun b => b.1 < line c)
    refine ⟨(blocks.takeWhile fun b => b.1 < line c).flatMap (·.2) ++ c :: before, after, ?_, ?_⟩
    · rw [List.cons_append, interleave, hwithout, List.append_assoc, List.cons_append]
    · intro a ha
      rw [List.cons_append, interleave, hwith a ha, List.append_assoc, List.cons_append]

/-- Lines that count for nothing can be taken away. -/
theorem interleave_filter {keep : α → Bool} {as : List α}
    (hk : ∀ a ∈ as, keep a = false → p a = none) (hs : as.Pairwise fun a b => line a ≤ line b)
    (blocks : List (Nat × List α)) :
    (interleave line blocks (as.filter keep)).filterMap p =
      (interleave line blocks as).filterMap p := by
  induction as generalizing blocks with
  | nil => rfl
  | cons a as ih =>
    have hrest := ih (fun b hb => hk b (List.mem_cons_of_mem a hb)) (List.Pairwise.of_cons hs)
    by_cases ha : keep a
    · rw [List.filter_cons_of_pos ha, interleave, interleave, List.filterMap_append,
        List.filterMap_append, List.filterMap_cons, List.filterMap_cons, hrest]
    · -- the blocks before this line now come before the next one
      have hnone : p a = none := hk a List.mem_cons_self (by simpa using ha)
      have hbefore := interleave_before (fun b hb => List.rel_of_pairwise_cons hs hb) blocks
      rw [List.filter_cons_of_neg ha, hrest, interleave, List.filterMap_append,
        List.filterMap_cons, hnone, ← List.filterMap_append, hbefore]

theorem interleave_map {f : Nat → Nat} {g : α → α} {as : List α} (hp : ∀ a ∈ as, p (g a) = p a)
    (blocks : List (Nat × List α))
    (hf : ∀ b ∈ blocks, ∀ a ∈ as, f b.1 < line (g a) ↔ b.1 < line a) :
    (interleave line (blocks.map fun b => (f b.1, b.2)) (as.map g)).filterMap p =
      (interleave line blocks as).filterMap p := by
  induction as generalizing blocks with
  | nil => simp [interleave, List.flatMap_map]
  | cons a as ih =>
    have hsame : ∀ b ∈ blocks, decide (f b.1 < line (g a)) = decide (b.1 < line a) :=
      fun b hb => decide_eq_decide.mpr (hf b hb a List.mem_cons_self)
    obtain ⟨hbefore, hafter⟩ := span_map (q := fun b => decide (b.1 < line (g a)))
      (fun b : Nat × List α => (f b.1, b.2)) hsame
    have hrest := ih (fun b hb => hp b (List.mem_cons_of_mem a hb))
      (blocks.dropWhile fun b => b.1 < line a) fun b hb c hc =>
        hf b ((List.dropWhile_suffix _).subset hb) c (List.mem_cons_of_mem a hc)
    rw [List.map_cons, interleave, interleave, hbefore, hafter, List.filterMap_append,
      List.filterMap_append, List.filterMap_cons, List.filterMap_cons, hrest,
      hp a List.mem_cons_self, List.flatMap_map]

end

end ImportTree

namespace Configuration

variable {repo : Repository} {c d : Configuration} {f : Nat → Nat}

theorem fresh_renumber (f : Nat → Nat) (visited : List String) (is : List Import) :
    fresh visited (is.map (·.renumber f)) = (fresh visited is).map (·.renumber f) := by
  induction is generalizing visited with
  | nil => rfl
  | cons i is ih =>
    have hname : (i.renumber f).name = i.name := rfl
    rw [List.map_cons, fresh, fresh, hname]
    split
    · exact ih visited
    · rw [ih, List.map_cons]

theorem located_renumber (f : Nat → Nat) (repo : Repository) (is : List Import) :
    located repo (is.map (·.renumber f)) =
      (located repo is).map fun e => (e.1.renumber f, e.2) := by
  rw [located, located, List.filterMap_map, List.map_filterMap]
  simp only [Function.comp_def, Option.map_map]
  rfl

theorem unfoldEach_renumber (f : Nat → Nat)
    (unfold : List String → Configuration → List ImportTree × List String)
    (visited : List String) (es : List (Import × Configuration)) :
    (unfoldEach unfold visited (es.map fun e => (e.1.renumber f, e.2))).1 =
      (unfoldEach unfold visited es).1.map (ImportTree.renumber f) := by
  induction es generalizing visited with
  | nil => rfl
  | cons e es ih => simp [unfoldEach, ih, ImportTree.renumber]

theorem imports_renumber (h : d.sheet.imports = c.sheet.imports.map (·.renumber f)) :
    d.imports repo = (c.imports repo).map (ImportTree.renumber f) := by
  have hnames : ∀ is : List Import, (is.map (·.renumber f)).map (·.name) = is.map (·.name) := by
    intro is
    rw [List.map_map]
    rfl
  rw [imports, imports, unfold, unfold, h, fresh_renumber, located_renumber, hnames,
    unfoldEach_renumber]

theorem rules_renumber (ho : d.sheet.options = c.sheet.options)
    (hi : d.sheet.imports = c.sheet.imports.map (·.renumber f)) (key : String) :
    d.rules repo key = c.rules repo key := by
  rw [rules, rules, imports_renumber hi, ImportTree.allRules_renumber, optionValues, optionValues,
    ho]

theorem importedVariables_renumber (h : d.sheet.imports = c.sheet.imports.map (·.renumber f)) :
    d.importedVariables repo = c.importedVariables repo := by
  rw [importedVariables, importedVariables, imports_renumber h, ImportTree.merged_renumber]

theorem declared_renumber
    (h : d.sheet.declarations = c.sheet.declarations.map (·.renumber f)) (owner : Option String) :
    d.declared owner = c.declared owner := by
  rw [declared, declared, h, List.foldl_map]
  rfl

end Configuration
end PageOverlay
