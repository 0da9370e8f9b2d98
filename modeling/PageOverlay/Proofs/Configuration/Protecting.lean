import PageOverlay.Proofs.Command.Building
import PageOverlay.Proofs.Configuration.PlainReplacement
import PageOverlay.Proofs.Text.Gaps

/-!
# Protecting and releasing

A protected word gets a joiner into each of its gaps, and its release takes the joiners out. The
words of a sheet may overlap in a text and hold one another. Still each release finds its word where
it was protected, since the joiners that others have set there were taken out before or never were
there.
-/

set_option autoImplicit false

namespace PageOverlay

open Text (marked remark remarkAll spaced)

def protecting (word : List Char) : Command := .action (.protect (String.ofList word) "" none)

namespace Configuration

variable {b b' : Bool}

theorem release?_protecting (word : List Char) :
    (protecting word).release? = some (literalReplacement (guarded word) word) := by
  rw [protecting, Command.release?, Action.release?, String.toList_ofList, literalReplacement]
  rfl

theorem onText_protecting (word text : List Char) (location : String) :
    (protecting word).onText location text = replaceText word (guarded word) text := by
  have hrule : locationMatches "".toList location.toList = true := rfl
  rw [protecting, Command.onText, Action.onText, if_pos hrule, String.toList_ofList,
    replaced_literal]

/-- Commands that each look for a word with its gaps marked one way and mark them the other way
change the marks of the text, one after the other. -/
theorem onTextAll_respace {make : List Char → Command} {location : String}
    (hmake : ∀ w text, (make w).onText location text =
      replaceText (spaced joiner b w) (spaced joiner b' w) text)
    {cs : List Char} (hcs : joiner ∉ cs) {words : List (List Char)}
    (hwords : ∀ w ∈ words, joiner ∉ w) (m : Nat → Bool) :
    Command.onTextAll location (marked joiner m 0 cs) (words.map make) =
      marked joiner (remarkAll b b' cs words m) 0 cs := by
  induction words generalizing m with
  | nil => rfl
  | cons word words ih =>
    have ih := ih fun w hw => hwords w (List.mem_cons_of_mem _ hw)
    rw [List.map_cons, Command.onTextAll, hmake]
    cases word with
    | nil => exact ih m
    | cons n ns =>
      obtain ⟨hn, hns⟩ : joiner ≠ n ∧ joiner ∉ ns := by
        simpa using hwords (n :: ns) List.mem_cons_self
      have hmarks : replaceText (spaced joiner b (n :: ns)) (spaced joiner b' (n :: ns))
          (marked joiner m 0 cs) = marked joiner (remark n ns b b' m 0 cs) 0 cs :=
        Text.replaceAll_marked hn hns hcs 0
      rw [hmarks, ih, remarkAll]

/-- A sheet that only protects words changes no text, however the words overlap or repeat. -/
theorem transformText_protecting {c : Configuration} {repo : Repository} {words : List (List Char)}
    (hlines : c.lineCommands repo = words.map protecting)
    (hwords : ∀ w ∈ words, joiner ∉ w) (location text : String)
    (htext : joiner ∉ text.toList) : c.transformText repo location text = .ok text := by
  have hreleases : (words.map protecting).filterMap Command.release? =
      words.map fun w => literalReplacement (guarded w) w := by
    rw [List.filterMap_map, ← List.filterMap_eq_map]
    congr 1
    funext w
    exact release?_protecting w
  have hprotecting : ∀ w t, (protecting w).onText location t =
      replaceText (spaced joiner false w) (spaced joiner true w) t := fun w t => by
    rw [onText_protecting, Text.spaced_false, Text.spaced_true, guarded]
  have hreleasing : ∀ w t, (literalReplacement (guarded w) w).onText location t =
      replaceText (spaced joiner true w) (spaced joiner false w) t := fun w t => by
    rw [onText_literalReplacement, Text.spaced_false, Text.spaced_true, guarded]
  obtain ⟨v, -, hadded, hback⟩ := Text.exists_added text.toList words fun _ => false
  have hv : remarkAll false true text.toList words (fun _ => false) = v := by
    funext g
    rw [hadded, Bool.false_or]
  have hall : Command.onTextAll location text.toList (c.commands repo) = text.toList := by
    calc Command.onTextAll location text.toList (c.commands repo)
        = Command.onTextAll location (Command.onTextAll location
            (marked joiner (fun _ => false) 0 text.toList) (words.map protecting))
            (words.map fun w => literalReplacement (guarded w) w) := by
          rw [commands, hlines, hreleases, Command.onTextAll_append, Text.marked_of_none]
      _ = marked joiner (remarkAll true false text.toList words v) 0 text.toList := by
          rw [onTextAll_respace hprotecting htext hwords, hv,
            onTextAll_respace hreleasing htext hwords]
      _ = text.toList := by rw [hback, Text.marked_of_none]
  rw [transformText, transformWith_eq, hall, String.ofList_toList]

structure IsVerbatim (word : List Char) : Prop where
  nonempty : word ≠ []
  noDollar : '$' ∉ word
  oneLine : '\n' ∉ word
  split : Sheet.splitParameters word = .ok [word]

def protectKey (word : List Char) : List Char := Sheet.callText "protect".toList word

theorem tryBuild_protectKey (b : Builder) {word : List Char} (h : IsVerbatim word)
    (value : String) : b.tryBuild value (protectKey word) = .ok (protecting word) := by
  let entry : Entry := { name := "protect", signature := ⟨[1, 2, 3], none⟩, verb := .protect }
  have hname : IsName "protect".toList := .intro (by decide) (by decide)
  have hcalls : b.Calls (protectKey word) entry [word] :=
    Builder.calls_of_isName hname h.oneLine h.split rfl
  obtain ⟨n, ns, rfl⟩ := List.exists_cons_of_ne_nil h.nonempty
  rw [Builder.tryBuild_of_calls hcalls]
  rfl

theorem lineCommand_protect (b : Builder) (s : Scopes) {l : PlacedLine} {word : List Char}
    (h : IsVerbatim word)
    (hbody : l.command.body = .invocation (String.ofList (protectKey word)) "") :
    lineCommand b s l = protecting word := by
  have hkey : '$' ∉ protectKey word := by
    simp only [protectKey, Sheet.callText, List.mem_cons, List.mem_append, not_or]
    exact ⟨by decide, by decide, by decide, h.noDollar, by decide, by decide⟩
  exact lineCommand_of_no_value hbody hkey (tryBuild_protectKey b h "")

/-- Three words that hold or overlap one another. The second one is also found next to places where
the first one is protected. -/
theorem transformText_protecting_overlapping :
    (Configuration.ofText "!protect(aba)\n!protect(ab)\n!protect(ba)").transformText []
      "http://example.com" "ababaab" = .ok "ababaab" := by
  let c := Configuration.ofText "!protect(aba)\n!protect(ab)\n!protect(ba)"
  have hplaced : c.placedLines [] =
      [⟨true, 1, "", .invocation "!protect(aba)" ""⟩, ⟨true, 2, "", .invocation "!protect(ab)" ""⟩,
        ⟨true, 3, "", .invocation "!protect(ba)" ""⟩] := rfl
  have hverbatim : ∀ w ∈ ["aba".toList, "ab".toList, "ba".toList], IsVerbatim w := by
    intro w hw
    simp only [List.mem_cons, List.not_mem_nil, or_false] at hw
    rcases hw with rfl | rfl | rfl <;> exact ⟨by decide, by decide, by decide, rfl⟩
  have hlines : c.lineCommands [] = ["aba".toList, "ab".toList, "ba".toList].map protecting := by
    rw [lineCommands, hplaced, List.map_cons, List.map_cons, List.map_cons,
      lineCommand_protect _ _ (hverbatim "aba".toList (by simp)) rfl,
      lineCommand_protect _ _ (hverbatim "ab".toList (by simp)) rfl,
      lineCommand_protect _ _ (hverbatim "ba".toList (by simp)) rfl]
    rfl
  exact transformText_protecting hlines (by decide) "http://example.com" "ababaab" (by decide)

end Configuration
end PageOverlay
