import PageOverlay.Command.Builder
import PageOverlay.Proofs.Sheet.ExpressionKeys

/-!
# What a call builds

A key that calls a command is read in the same steps whatever the command is. The steps are taken
here once, for commands that wrap no other and for conditions.
-/

set_option autoImplicit false

namespace PageOverlay

inductive IsName : List Char → Prop
  | intro {c : Char} {cs : List Char} (first : Text.isNameStart c)
    (later : cs.all Sheet.isNameTail) : IsName (c :: cs)

theorem not_blank_of_isNameStart {c : Char} (h : Text.isNameStart c) : Text.isBlank c = false := by
  have hrange : 65 ≤ c.toNat ∧ c.toNat ≤ 122 := by
    rcases Bool.or_eq_true_iff.mp h with hletter | hunder
    · rcases Bool.or_eq_true_iff.mp hletter with hupper | hlower
      · obtain ⟨hl, hu⟩ := of_decide_eq_true hupper
        exact ⟨hl, Nat.le_trans hu (by decide)⟩
      · obtain ⟨hl, hu⟩ := Bool.and_eq_true_iff.mp hlower
        exact ⟨Nat.le_trans (by decide) (of_decide_eq_true hl), of_decide_eq_true hu⟩
    · rw [eq_of_beq hunder]
      decide
  simp only [Text.isBlank, Bool.or_eq_false_iff, Bool.and_eq_false_iff, decide_eq_false_iff_not,
    beq_eq_false_iff_ne]
  omega

namespace Call

variable {name inside : List Char}

theorem takeName?_append (h : IsName name) {stop : Char} (hstop : ¬ Sheet.isNameTail stop)
    (rest : List Char) : takeName? (name ++ stop :: rest) = some (name, stop :: rest) := by
  obtain ⟨first, later⟩ := h
  rename_i c cs
  rw [List.all_eq_true] at later
  have htake : (cs ++ stop :: rest).takeWhile Sheet.isNameTail = cs := by
    rw [List.takeWhile_append_of_pos later, List.takeWhile_cons_of_neg hstop, List.append_nil]
  have hdrop : (cs ++ stop :: rest).dropWhile Sheet.isNameTail = stop :: rest := by
    rw [List.dropWhile_append_of_pos later, List.dropWhile_cons_of_neg hstop]
  rw [List.cons_append, takeName?, if_pos first, htake, hdrop]

theorem readInside?_append (h : '\n' ∉ inside) :
    readInside? ('(' :: (inside ++ [')'])) = some inside := by
  have hfeed : inside.contains '\n' = false := by simpa using h
  have hcut : Text.cutAtLast? ')' (inside ++ [')']) = some (inside, []) :=
    Text.cutAtLast?_eq_some_iff.mpr ⟨List.not_mem_nil, rfl⟩
  rw [readInside?, Text.trimStart_cons (by decide)]
  simp only [hcut, if_true, hfeed]
  rfl

theorem read?_of_isName (hname : IsName name) (hinside : '\n' ∉ inside) :
    read? (name ++ '(' :: (inside ++ [')'])) = some ⟨none, name, inside⟩ := by
  have htrim : Text.trimStart (name ++ '(' :: (inside ++ [')'])) =
      name ++ '(' :: (inside ++ [')']) := by
    obtain ⟨first, -⟩ := hname
    exact Text.trimStart_cons (not_blank_of_isNameStart first) _
  rw [read?, htrim, takeName?_append hname (by decide)]
  simp only [readInside?_append hinside, Option.map_some]
  rfl

end Call

namespace Builder

variable {b : Builder} {key : List Char} {e : Entry} {parameters : List (List Char)}

/-- What the entry of a call makes of the parameters and the value. A condition is put around what
its last parameters make. -/
def construct (b : Builder) (e : Entry) (i : Invocation) : Except CommandError Command :=
  match e.verb.wrapsFrom with
  | none => e.verb.command b.includeRules b.excludeRules i
  | some k =>
    match b.tryBuild i.value (Text.joinWith [','] (i.parameters.drop k)) with
    | .ok inner => e.verb.wrap i inner
    | .error fault => .error fault

theorem tryBuild_of_read {body : List Char} {call : Call} (trimmed : Text.trim key = '!' :: body)
    (noSlash : body.head? ≠ some '/') (read : Call.read? body = some call)
    (split : Sheet.splitParameters call.inside = .ok parameters) (value : String) :
    b.tryBuild value key =
      (b.resolve call).bind fun e => b.construct e ⟨e.name, parameters, value⟩ := by
  rw [tryBuild]
  split
  · next ht => rw [trimmed] at ht; cases ht
  · next ht =>
    rw [trimmed] at ht
    obtain ⟨rfl, rfl⟩ := List.cons.inj ht
    rw [if_neg (by simp), if_neg noSlash]
    split
    · next hc => rw [read] at hc; cases hc
    · next hc =>
      rw [read] at hc
      obtain rfl := Option.some.inj hc
      split
      · next hp => rw [split] at hp; cases hp
      · next hp =>
        rw [split] at hp
        obtain rfl := Except.ok.inj hp
        cases b.resolve call <;> rfl

/-- The key calls the entry with the given parameters. -/
inductive Calls (b : Builder) (key : List Char) (e : Entry) (parameters : List (List Char)) : Prop
  | intro {body : List Char} {call : Call} (trimmed : Text.trim key = '!' :: body)
    (noSlash : body.head? ≠ some '/') (read : Call.read? body = some call)
    (split : Sheet.splitParameters call.inside = .ok parameters) (resolved : b.resolve call = .ok e)

theorem tryBuild_of_calls (h : b.Calls key e parameters) (value : String) :
    b.tryBuild value key = b.construct e ⟨e.name, parameters, value⟩ := by
  obtain ⟨trimmed, noSlash, read, split, resolved⟩ := h
  rw [tryBuild_of_read trimmed noSlash read split, resolved]
  rfl

theorem calls_of_isName {name inside : List Char} (hname : IsName name) (hinside : '\n' ∉ inside)
    (hsplit : Sheet.splitParameters inside = .ok parameters)
    (hresolve : b.resolve ⟨none, name, inside⟩ = .ok e) :
    b.Calls (Sheet.callText name inside) e parameters := by
  refine .intro (Sheet.trim_callText name inside) ?_ (Call.read?_of_isName hname hinside) hsplit
    hresolve
  obtain ⟨first, -⟩ := hname
  rw [List.cons_append, List.head?_cons]
  rintro ⟨rfl⟩
  cases first

end Builder
end PageOverlay
