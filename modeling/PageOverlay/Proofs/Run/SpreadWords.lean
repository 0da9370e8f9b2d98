import Mathlib.Algebra.Order.Ring.Nat
import Mathlib.Data.List.Forall2
import PageOverlay.Proofs.Change.SideBySide
import PageOverlay.Proofs.Run.ShortenedLabels
import PageOverlay.Proofs.Selector.Matching

/-!
# Words spread over lines

The words of a label's new text go to its lines in order, to each line at most as many as it had.
No word is lost unless there are too many of them, and then an ellipsis ends the last line. The
lines are cut by bounds that stay in range however long or short the text has become.
-/

set_option autoImplicit false

namespace PageOverlay

theorem Text.pieces_append_sep (sep : Char) (a b : List Char) :
    pieces sep (a ++ sep :: b) = pieces sep a ++ pieces sep b := by
  unfold pieces
  induction a with
  | nil => simp [piecesBy]
  | cons c a ih =>
    rw [List.cons_append, piecesBy, piecesBy, ih]
    split
    · rfl
    · obtain ⟨w, ws, hw⟩ := List.exists_cons_of_ne_nil (piecesBy_ne_nil (· == sep) a)
      rw [hw]
      rfl

theorem Text.pieces_joinWith_flatMap {sep : Char} {lines : List (List Char)} (hne : lines ≠ []) :
    pieces sep (joinWith [sep] lines) = lines.flatMap (pieces sep) := by
  induction lines with
  | nil => exact absurd rfl hne
  | cons line lines ih =>
    cases lines with
    | nil => simp [joinWith]
    | cons next lines =>
      have hnext := List.cons_ne_nil next lines
      rw [joinWith_cons _ _ hnext, List.append_assoc, List.singleton_append, pieces_append_sep,
        ih hnext]
      rfl

namespace Labels

def runsOf : List Nat → List (List Char) → List (List (List Char))
  | [], _ => []
  | count :: counts, words => words.take count :: runsOf counts (words.drop count)

/-- The runs are all of the words in order, for each line at most as many as it has itself. -/
structure Spreads (words : List (List Char)) (lines : List (List Char))
    (runs : List (List (List Char))) : Prop where
  flatten : runs.flatten = words
  fits : List.Forall₂ (fun run line => run.length ≤ (Text.pieces ' ' line).length) runs lines

def wordCounts (lines : List (List Char)) : List Nat :=
  lines.map fun line => (Text.pieces ' ' line).length

variable {words : List (List Char)} {counts : List Nat} {lines : List (List Char)}

theorem flatten_runsOf (h : words.length ≤ counts.sum) : (runsOf counts words).flatten = words := by
  induction counts generalizing words with
  | nil =>
    obtain rfl := List.eq_nil_of_length_eq_zero (Nat.le_zero.mp h)
    rfl
  | cons count counts ih =>
    have hrest : (words.drop count).length ≤ counts.sum := by
      rw [List.sum_cons] at h
      rw [List.length_drop]
      omega
    rw [runsOf, List.flatten_cons, ih hrest, List.take_append_drop]

theorem spreads_runsOf (h : words.length ≤ (wordCounts lines).sum) :
    Spreads words lines (runsOf (wordCounts lines) words) where
  flatten := flatten_runsOf h
  fits := by
    clear h
    induction lines generalizing words with
    | nil => exact .nil
    | cons line lines ih => exact .cons (List.length_take_le _ _) ih

theorem runsOf_flatMap (lines : List (List Char)) :
    runsOf (wordCounts lines) (lines.flatMap (Text.pieces ' ')) = lines.map (Text.pieces ' ') := by
  induction lines with
  | nil => rfl
  | cons line lines ih =>
    rw [wordCounts, List.map_cons, runsOf, List.flatMap_cons, List.take_left, List.drop_left,
      ← wordCounts, ih, List.map_cons]

theorem fitWords_eq (total : Nat) (words : List (List Char)) : fitWords total words =
    if words.length ≤ total then words else words.take (total - 1) ++ [ellipsis] := by
  rw [fitWords, ← ite_not]
  simp only [Nat.not_lt]

theorem length_fitWords_le (total : Nat) (words : List (List Char)) (h : 0 < total) :
    (fitWords total words).length ≤ total := by
  rw [fitWords]
  split
  · rw [List.length_append, List.length_take, List.length_singleton]
    omega
  · omega

theorem lineTexts_zip {spans : List NodeId} (h : spans.length = counts.length) :
    lineTexts (spans.zip counts) words =
      spans.zip ((runsOf counts words).map (Text.joinWith [' '])) := by
  induction spans generalizing counts words with
  | nil => rfl
  | cons span spans ih =>
    cases counts with
    | nil => cases h
    | cons count counts =>
      rw [List.zip_cons_cons, lineTexts, ih (by simpa using h)]
      rfl

theorem sum_wordCounts (lines : List (List Char)) :
    (wordCounts lines).sum = (lines.flatMap (Text.pieces ' ')).length :=
  List.length_flatMap.symm

def slice? {α : Type} (first last : Nat) (as : List α) : Option (List α) :=
  if first ≤ last ∧ last ≤ as.length then some ((as.drop first).take (last - first)) else none

def put? {α : Type} (i : Nat) (a : α) (as : List α) : Option (List α) :=
  if i < as.length then some (as.set i a) else none

def fitWords? (total : Nat) (words : List (List Char)) : Option (List (List Char)) :=
  if total < words.length then put? (total - 1) ellipsis (words.take total) else some words

/-- Cuts words into runs by bounds that move on from run to run and are held at the end. -/
def runsByBounds? (start : Nat) : List Nat → List (List Char) → Option (List (List (List Char)))
  | [], _ => some []
  | count :: counts, words => do
    let run ← slice? (min start words.length) (min (start + count) words.length) words
    let others ← runsByBounds? (start + count) counts words
    pure (run :: others)

theorem fitWords?_eq {total : Nat} (h : 0 < total) (words : List (List Char)) :
    fitWords? total words = some (fitWords total words) := by
  rw [fitWords?, fitWords]
  split
  · next hlt =>
    have htake : words.take total = words.take (total - 1) ++ [words[total - 1]] := by
      rw [List.take_append_getElem]
      congr 1
      omega
    have hlength : (words.take (total - 1)).length = total - 1 := by
      rw [List.length_take]
      omega
    rw [put?, if_pos (by rw [List.length_take]; omega), htake,
      List.set_append_right _ _ (Nat.le_of_eq hlength), hlength, Nat.sub_self, List.set_cons_zero]
  · rfl

theorem runsByBounds?_eq (start : Nat) (counts : List Nat) (words : List (List Char)) :
    runsByBounds? start counts words = some (runsOf counts (words.drop start)) := by
  induction counts generalizing start with
  | nil => rfl
  | cons count counts ih =>
    have hslice : slice? (min start words.length) (min (start + count) words.length) words =
        some ((words.drop start).take count) := by
      rw [slice?, if_pos (by omega), Option.some.injEq]
      by_cases hstart : start ≤ words.length
      · rw [Nat.min_eq_left hstart, List.take_eq_take_iff, List.length_drop]
        omega
      · rw [List.drop_eq_nil_of_le (by omega), List.drop_eq_nil_of_le (by omega), List.take_nil,
          List.take_nil]
    rw [runsByBounds?, hslice, Option.bind_eq_bind, Option.bind_some, ih, ← List.drop_drop]
    rfl

theorem lineSpan_accepts_iff {p : Page} {n : NodeId} :
    lineSpan.accepts p n = true ↔ p.tag? n = some "TSPAN" := by
  have hspan : lineSpan = .css [.one { tag := some "TSPAN" }] := by decide +kernel
  have haccepts : lineSpan.accepts p n = ({ tag := some "TSPAN" } : Compound).accepts p n := by
    rw [hspan]
    exact Bool.or_false _
  rw [haccepts, Compound.accepts_iff]
  constructor
  · exact fun h => h.tag _ rfl
  · intro h
    exact ⟨by simp [Page.isElement, h], fun t ht => Option.some.inj ht ▸ h, nofun, nofun, nofun⟩

theorem mem_lineSpans {p : Page} (hw : p.WellFormed) {text n : NodeId} :
    n ∈ lineSpans p text ↔ p.Under text n ∧ p.tag? n = some "TSPAN" := by
  rw [lineSpans, List.mem_filter, hw.mem_descendants, lineSpan_accepts_iff]

/-- None of the lines of the label stands inside of another one. -/
def LinesAside (p : Page) (text : NodeId) : Prop :=
  ∀ m n, p.Under text m → p.tag? m = some "TSPAN" → p.tag? n = some "TSPAN" → p.Under m n → m = n

theorem pairwise_lineSpans {p : Page} (hw : p.WellFormed) {text : NodeId} (h : LinesAside p text) :
    (lineSpans p text).Pairwise (Page.Aside p) := by
  have hnodup : (lineSpans p text).Nodup := (hw.nodup_descendants text).filter _
  refine hnodup.imp_of_mem fun hm hn hne => ?_
  obtain ⟨hum, htm⟩ := (mem_lineSpans hw).mp hm
  obtain ⟨hun, htn⟩ := (mem_lineSpans hw).mp hn
  exact ⟨fun hu => hne (h _ _ hum htm htn hu), fun hu => hne (h _ _ hun htn htm hu).symm⟩

def runTexts (spans : List NodeId) (runs : List (List (List Char))) : List (NodeId × String) :=
  spans.zip (runs.map fun run => String.ofList (Text.joinWith [' '] run))

theorem newLines_eq (p : Page) (spans : List NodeId) (full : List Char) :
    (newLines p spans full).map (fun line => (line.1, String.ofList line.2)) =
      runTexts spans (runsOf (wordCounts (spans.map (contentOf p)))
        (fitWords (wordCounts (spans.map (contentOf p))).sum (Text.pieces ' ' full))) := by
  have hlength : spans.length = (wordCounts (spans.map (contentOf p))).length := by
    simp [wordCounts]
  rw [newLines, ← sum_wordCounts, ← wordCounts, lineTexts_zip hlength, runTexts, List.zip_map_right,
    List.zip_map_right]
  simp [List.map_map, Function.comp_def]

variable {w : World} {t : Transformer} {title text : NodeId}

theorem run_splitLine (ht : w.page.parent? title = some text)
    (hlines : 2 ≤ (lineSpans w.page text).length) :
    (splitLine t title).run w =
      (forAll Change.writeText (lineChanges t w.page text)).run w := by
  have hmany : ¬ (lineSpans w.page text).length < 2 := Nat.not_lt_of_le hlines
  rw [splitLine, Change.run_page_bind]
  simp only [ht]
  rw [← lineSpans, if_neg hmany, Change.run_bind, run_transform, Change.continueWith_ok,
    lineChanges, Change.forAll_map]
  rfl

def lineContents (p : Page) (text : NodeId) : List (List Char) :=
  (lineSpans p text).map (contentOf p)

theorem sum_wordCounts_pos (hne : lines ≠ []) : 0 < (wordCounts lines).sum := by
  obtain ⟨line, rest, rfl⟩ := List.exists_cons_of_ne_nil hne
  have hline : 0 < (Text.pieces ' ' line).length :=
    List.length_pos_of_ne_nil (Text.piecesBy_ne_nil _ line)
  rw [wordCounts, List.map_cons, List.sum_cons]
  omega

theorem lineChanges_eq (t : Transformer) (p : Page) (text : NodeId) :
    lineChanges t p text = runTexts (lineSpans p text) (runsOf (wordCounts (lineContents p text))
      (fitWords (wordCounts (lineContents p text)).sum
        (Text.pieces ' ' (t.result p.location (Text.joinWith [' '] (lineContents p text)))))) :=
  newLines_eq p (lineSpans p text) _

theorem lineChanges_same {p : Page} (hne : lineContents p text ≠ [])
    (h : t.result p.location (Text.joinWith [' '] (lineContents p text)) =
      Text.joinWith [' '] (lineContents p text)) :
    ∀ line ∈ lineChanges t p text, (p.property? line.1 Page.contentPath).getD "" = line.2 := by
  have hfit : fitWords (wordCounts (lineContents p text)).sum
      ((lineContents p text).flatMap (Text.pieces ' ')) =
        (lineContents p text).flatMap (Text.pieces ' ') := by
    rw [fitWords, sum_wordCounts, if_neg (Nat.lt_irrefl _)]
  have hback : ((lineContents p text).map (Text.pieces ' ')).map
      (fun run => String.ofList (Text.joinWith [' '] run)) =
        (lineSpans p text).map fun n => (p.property? n Page.contentPath).getD "" := by
    simp only [lineContents, List.map_map, Function.comp_def, Text.joinWith_pieces, contentOf,
      String.ofList_toList]
  rw [lineChanges_eq, h, Text.pieces_joinWith_flatMap hne, hfit, runsOf_flatMap, runTexts, hback]
  intro line hline
  rw [← List.map_prod_left_eq_zip] at hline
  obtain ⟨n, -, rfl⟩ := List.mem_map.mp hline
  rfl

theorem isElement_of_mem_lineChanges {p : Page} {line : NodeId × String}
    (h : line ∈ lineChanges t p text) : p.isElement line.1 := by
  have hspan : line.1 ∈ lineSpans p text := map_fst_lineChanges t p text ▸ List.mem_map_of_mem h
  exact isElement_of_known (List.mem_filter.mp hspan).2

theorem pairwise_lineChanges (t : Transformer) {p : Page} (hw : p.WellFormed)
    (h : LinesAside p text) : (lineChanges t p text).Pairwise fun s t => p.Aside s.1 t.1 := by
  rw [← List.pairwise_map (f := Prod.fst), map_fst_lineChanges]
  exact pairwise_lineSpans hw h

theorem ofList_result (t : Transformer) (location : String) (text : List Char) :
    t.configuration.transformWith t.commands location (String.ofList text) =
      .ok (String.ofList (t.result location text)) := by
  obtain ⟨new, h⟩ := t.configuration.transformWith_ok t.commands location (.ofList text)
  rw [Transformer.result, h]
  simp

/-- The words of the new text are spread over the lines of a label, of which none stands inside of
another one. All of them are kept if there are no more than before, else the first ones with an
ellipsis at their end. Reading them by bounds never goes out of range. Every line then shows its
run, and just the lines that showed something else before are written; a text that stays as it is
changes nothing. -/
theorem splitLine_spreads (t : Transformer) (hp : w.page.Reachable)
    (ht : w.page.parent? title = some text) (hlines : 2 ≤ (lineSpans w.page text).length)
    (haside : LinesAside w.page text) :
    let lines := lineContents w.page text
    let total := (wordCounts lines).sum
    ∃ full runs q,
      t.configuration.transformWith t.commands w.page.location
          (String.ofList (Text.joinWith [' '] lines)) = .ok (String.ofList full) ∧
      Spreads (if (Text.pieces ' ' full).length ≤ total then Text.pieces ' ' full
        else (Text.pieces ' ' full).take (total - 1) ++ [ellipsis]) lines runs ∧
      (fitWords? total (Text.pieces ' ' full)).bind (runsByBounds? 0 (wordCounts lines)) =
        some runs ∧
      (splitLine t title).run w =
        (.ok ((runTexts (lineSpans w.page text) runs).filterMap (Change.textUndo? w.page)),
          { w with page := q }) ∧
      w.page.ShowsAll q (runTexts (lineSpans w.page text) runs) ∧
      (full = Text.joinWith [' '] lines → (splitLine t title).run w = (.ok [], w)) := by
  intro lines total
  have hw := hp.wellFormed
  have hne : lines ≠ [] := by
    intro h
    have hnil : lineSpans w.page text = [] := List.map_eq_nil_iff.mp h
    rw [hnil] at hlines
    exact absurd hlines (by decide)
  have hpos : 0 < total := sum_wordCounts_pos hne
  let full := t.result w.page.location (Text.joinWith [' '] lines)
  obtain ⟨q, hrun, -, hshows⟩ := Change.run_writeTexts_aside hw
    (fun line => isElement_of_mem_lineChanges) (pairwise_lineChanges t hw haside)
  rw [← run_splitLine ht hlines] at hrun
  rw [lineChanges_eq] at hrun hshows
  refine ⟨full, runsOf (wordCounts lines) (fitWords total (Text.pieces ' ' full)), q,
    ofList_result t _ _, ?_, ?_, hrun, hshows, fun hsame => ?_⟩
  · rw [← fitWords_eq]
    exact spreads_runsOf (length_fitWords_le total _ hpos)
  · rw [fitWords?_eq hpos, Option.bind_some, runsByBounds?_eq, List.drop_zero]
  · rw [run_splitLine ht hlines]
    exact Change.run_writeTexts_same (lineChanges_same hne hsame)

def deskWorld : World where
  page := .ofSnapshot {
    location := "x"
    root := .node (some "html") none [] [.node (some "svg") none [] [.node (some "text") none [] [
      .node (some "tspan") none [] [.node none (some "Order") [] []],
      .node (some "tspan") none [] [.node none (some "Service Desk") [] []],
      .node (some "title") none [] []]]] }

def deskSheet : Configuration := .ofText "Service = Customer Support"

def deskTransformer : Transformer := ⟨deskSheet, deskSheet.commands []⟩

theorem splitLine_spreads_desk :
    deskWorld.page.Reachable ∧ deskWorld.page.parent? 7 = some 2 ∧
      lineSpans deskWorld.page 2 = [3, 5] ∧ LinesAside deskWorld.page 2 ∧
      ∃ runs q,
        Spreads ["Order".toList, "Customer".toList, "...".toList]
          ["Order".toList, "Service Desk".toList] runs ∧
        ((splitLine deskTransformer 7).run deskWorld).1 =
          .ok [.property 5 Page.contentPath "Service Desk" "Customer ..."] ∧
        (splitLine deskTransformer 7).run deskWorld =
          (.ok ((runTexts [3, 5] runs).filterMap (Change.textUndo? deskWorld.page)),
            { deskWorld with page := q }) := by
  have hp : deskWorld.page.Reachable := .ofSnapshot _
  have ht : deskWorld.page.parent? 7 = some 2 := by decide +kernel
  have hspans : lineSpans deskWorld.page 2 = [3, 5] := by decide +kernel
  have haside : LinesAside deskWorld.page 2 := by
    have hall : ∀ m ∈ deskWorld.page.descendants 2, ∀ n ∈ deskWorld.page.descendants m,
        deskWorld.page.tag? m = some "TSPAN" → deskWorld.page.tag? n = some "TSPAN" → m = n := by
      decide +kernel
    intro m n hm htm htn hn
    exact hall m (hp.wellFormed.mem_descendants.mpr hm) n (hp.wellFormed.mem_descendants.mpr hn)
      htm htn
  obtain ⟨full, runs, q, hfull, hruns, -, hrun, -⟩ :=
    splitLine_spreads deskTransformer hp ht (by rw [hspans]; decide) haside
  have hlines : lineContents deskWorld.page 2 = ["Order".toList, "Service Desk".toList] := by
    decide +kernel
  have hnew : deskTransformer.configuration.transformWith deskTransformer.commands
      deskWorld.page.location (String.ofList "Order Service Desk".toList) =
        .ok (String.ofList "Order Customer Support Desk".toList) := by
    decide +kernel
  have hjoined : Text.joinWith [' '] ["Order".toList, "Service Desk".toList] =
      "Order Service Desk".toList := by decide
  rw [hlines, hjoined, hnew, Except.ok.injEq] at hfull
  obtain rfl := String.ofList_injective hfull
  rw [hlines] at hruns
  rw [hspans] at hrun
  exact ⟨hp, ht, hspans, haside, runs, q, hruns, by decide +kernel, hrun⟩

end Labels
end PageOverlay
