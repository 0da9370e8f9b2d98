import Mathlib.Data.List.Nodup
import PageOverlay.Proofs.Change.Outcome
import PageOverlay.Run.Runner

/-!
# The numbers of rules

Rules come and go in any order, also by changes that are taken back. A book gives each rule a number
that no rule had before it, so a number stands for one rule for good: taking it out takes out this
rule or none. What a book holds are the rules that were added since it was last emptied and not
taken out, and responses are changed as if the others had never been there.
-/

set_option autoImplicit false

namespace PageOverlay

namespace RuleBook

inductive Move (α : Type)
  | add (rule : α)
  | remove (id : Nat)
  | clear
  deriving DecidableEq, Repr

namespace Move

variable {α : Type}

def removes (id : Nat) : Move α → Bool
  | .remove other => other == id
  | _ => false

def clears : Move α → Bool
  | .clear => true
  | _ => false

def ends (id : Nat) (m : Move α) : Bool := m.removes id || m.clears

end Move

/-- A rule that was added, the number that was given back for it, and the moves that followed. -/
structure Addition (α : Type) where
  id : Nat
  rule : α
  later : List (Move α)

variable {α : Type} {b : RuleBook α} {ms : List (Move α)}

def Addition.stands (a : Addition α) : Bool := !a.later.any (Move.ends a.id)

def act (b : RuleBook α) : Move α → RuleBook α
  | .add rule => (b.add rule).2
  | .remove id => b.remove id
  | .clear => b.clear

def actAll (b : RuleBook α) (ms : List (Move α)) : RuleBook α := ms.foldl act b

theorem actAll_append (b : RuleBook α) (ms ns : List (Move α)) :
    b.actAll (ms ++ ns) = (b.actAll ms).actAll ns := List.foldl_append

def additions (b : RuleBook α) : List (Move α) → List (Addition α)
  | [] => []
  | .add rule :: ms => { id := (b.add rule).1, rule, later := ms } :: additions (b.add rule).2 ms
  | .remove id :: ms => additions (b.remove id) ms
  | .clear :: ms => additions b.clear ms

/-- The entries for those additions that stand. -/
def standing (as : List (Addition α)) : List (Nat × α) :=
  (as.filter (·.stands)).map fun a => (a.id, a.rule)

/-- The moves without the additions of rules that are taken out later on, and without taking
anything out. -/
def unremoved (b : RuleBook α) : List (Move α) → List (Move α)
  | [] => []
  | .add rule :: ms =>
    let others := unremoved (b.add rule).2 ms
    if ms.any (Move.removes (b.add rule).1) then others else .add rule :: others
  | .remove id :: ms => unremoved (b.remove id) ms
  | .clear :: ms => .clear :: unremoved b.clear ms

theorem ids_additions (b : RuleBook α) (ms : List (Move α)) :
    (b.additions ms).map (·.id) = List.range' (b.last + 1) (b.additions ms).length := by
  induction ms generalizing b with
  | nil => rfl
  | cons m ms ih =>
    cases m with
    | add rule =>
      have hrest := ih (b.add rule).2
      rw [last_add] at hrest
      rw [additions, List.map_cons, List.length_cons, List.range'_succ, hrest]
      rfl
    | remove id => exact ih (b.remove id)
    | clear => exact ih b.clear

theorem nodup_ids_additions (b : RuleBook α) (ms : List (Move α)) :
    ((b.additions ms).map (·.id)).Nodup := by
  rw [ids_additions]
  exact List.nodup_range'

theorem entries_actAll (b : RuleBook α) (ms : List (Move α)) :
    (b.actAll ms).entries =
      (b.entries.filter fun e => !ms.any (Move.ends e.1)) ++ standing (b.additions ms) := by
  induction ms generalizing b with
  | nil =>
    have hall : (b.entries.filter fun e => !([] : List (Move α)).any (Move.ends e.1)) = b.entries :=
      List.filter_eq_self.mpr fun _ _ => rfl
    rw [hall]
    exact (List.append_nil _).symm
  | cons m ms ih =>
    have hfirst : b.actAll (m :: ms) = (b.act m).actAll ms := rfl
    rw [hfirst, ih]
    cases m with
    | add rule =>
      -- the new entry stays where the old ones end, or it is ended like them
      have hends (id : Nat) : (Move.add rule :: ms).any (Move.ends id) = ms.any (Move.ends id) := by
        simp [Move.ends, Move.removes, Move.clears]
      have hnew : ([(b.last + 1, rule)].filter fun e => !ms.any (Move.ends e.1)) =
          standing [{ id := b.last + 1, rule, later := ms }] := by
        by_cases h : ms.any (Move.ends (b.last + 1)) <;> simp [standing, Addition.stands, h]
      have hadd : (b.add rule).2.entries = b.entries ++ [(b.last + 1, rule)] := rfl
      simp only [hends]
      rw [act, hadd, List.filter_append, hnew, List.append_assoc]
      simp only [standing, additions, ← List.map_append, ← List.filter_append]
      rfl
    | remove id =>
      have hleft : ((b.remove id).entries.filter fun e => !ms.any (Move.ends e.1)) =
          b.entries.filter fun e => !(Move.remove id :: ms).any (Move.ends e.1) := by
        rw [remove, List.filter_filter]
        refine List.filter_congr fun e _ => ?_
        have hfirst : (Move.remove id : Move α).ends e.1 = decide (e.1 = id) := by
          simp [Move.ends, Move.removes, Move.clears, eq_comm, beq_eq_decide]
        rw [List.any_cons, hfirst, Bool.not_or, decide_not, Bool.and_comm]
      rw [act, hleft]
      rfl
    | clear =>
      have hnone : (b.entries.filter fun e => !(Move.clear :: ms).any (Move.ends e.1)) = [] := by
        simp [Move.ends, Move.removes, Move.clears]
      rw [hnone]
      rfl

theorem entries_new (ms : List (Move α)) :
    (actAll ({} : RuleBook α) ms).entries = standing (additions {} ms) := entries_actAll {} ms

theorem mem_standing {e : Nat × α} {as : List (Addition α)} :
    e ∈ standing as ↔ ∃ a ∈ as, a.stands ∧ (a.id, a.rule) = e := by
  simp [standing, and_assoc]

theorem eq_of_mem_standing {e : Nat × α} {a : Addition α} (ha : a ∈ b.additions ms)
    (he : e ∈ standing (b.additions ms)) (hid : e.1 = a.id) : a.stands ∧ (a.id, a.rule) = e := by
  obtain ⟨a', ha', hstands, rfl⟩ := mem_standing.mp he
  obtain rfl := List.inj_on_of_nodup_map (nodup_ids_additions b ms) ha' ha hid
  exact ⟨hstands, rfl⟩

theorem remove_of_not_mem {id : Nat} (h : id ∉ b.entries.map (·.1)) : b.remove id = b := by
  have hall : b.entries.filter (·.1 ≠ id) = b.entries := by
    rw [List.filter_eq_self]
    intro e he
    simpa using fun hid : e.1 = id => h (hid ▸ List.mem_map_of_mem he)
  rw [remove, hall]

theorem remove_of_mem {e : Nat × α} (hnodup : (b.entries.map (·.1)).Nodup) (he : e ∈ b.entries) :
    ∃ before after, b.entries = before ++ e :: after ∧
      (b.remove e.1).entries = before ++ after := by
  obtain ⟨before, after, hsplit⟩ := List.append_of_mem he
  refine ⟨before, after, hsplit, ?_⟩
  rw [hsplit, List.map_append, List.map_cons, List.nodup_append, List.nodup_cons] at hnodup
  obtain ⟨-, ⟨hafter, -⟩, hbefore⟩ := hnodup
  have hkeep (es : List (Nat × α)) (h : ∀ x ∈ es, x.1 ≠ e.1) : es.filter (·.1 ≠ e.1) = es :=
    List.filter_eq_self.mpr fun x hx => by simpa using h x hx
  have hb := hkeep before fun x hx => hbefore x.1 (List.mem_map_of_mem hx) e.1 List.mem_cons_self
  have ha := hkeep after fun x hx hid => hafter (hid ▸ List.mem_map_of_mem hx)
  rw [remove, hsplit, List.filter_append, hb, List.filter_cons_of_neg (by simp), ha]

theorem nodup_ids_standing (b : RuleBook α) (ms : List (Move α)) :
    ((standing (b.additions ms)).map (·.1)).Nodup := by
  rw [standing, List.map_map]
  exact (nodup_ids_additions b ms).sublist (List.filter_sublist.map _)

theorem any_ends (id : Nat) (ms : List (Move α)) :
    ms.any (Move.ends id) = (ms.any (Move.removes id) || ms.any Move.clears) := by
  induction ms with
  | nil => rfl
  | cons m ms ih =>
    rw [List.any_cons, List.any_cons, List.any_cons, ih, Move.ends]
    grind

theorem any_ends_unremoved (id : Nat) (b : RuleBook α) (ms : List (Move α)) :
    (b.unremoved ms).any (Move.ends id) = ms.any Move.clears := by
  induction ms generalizing b with
  | nil => rfl
  | cons m ms ih =>
    cases m with
    | add rule =>
      have hadd : (Move.add rule :: ms).any Move.clears = ms.any Move.clears := rfl
      rw [unremoved, hadd]
      split
      · exact ih _
      · rw [List.any_cons, ih]
        rfl
    | remove other =>
      rw [unremoved, ih]
      rfl
    | clear => simp [unremoved, Move.ends, Move.clears]

theorem rules_unremoved (b b' : RuleBook α) (ms : List (Move α)) :
    (standing (b'.additions (b.unremoved ms))).map (·.2) =
      (standing (b.additions ms)).map (·.2) := by
  induction ms generalizing b b' with
  | nil => rfl
  | cons m ms ih =>
    have hcons (a : Addition α) (as : List (Addition α)) : (standing (a :: as)).map (·.2) =
        (if a.stands then [a.rule] else []) ++ (standing as).map (·.2) := by
      by_cases h : a.stands <;> simp [standing, h]
    cases m with
    | add rule =>
      rw [unremoved, additions, hcons, Addition.stands, any_ends]
      dsimp only
      by_cases h : ms.any (Move.removes (b.add rule).1)
      · rw [if_pos h, h, ih]
        rfl
      · rw [if_neg h, additions, hcons, Addition.stands, ih, any_ends_unremoved,
          Bool.eq_false_iff.mpr h, Bool.false_or]
    | remove id => exact ih (b.remove id) b'
    | clear => exact ih b.clear b'.clear

/-- The book holds what the moves make of a new one. -/
structure Accounts (b : RuleBook α) (ms : List (Move α)) : Prop where
  fresh : ((additions {} ms).map (·.id)).Nodup
  entries : b.entries = standing (additions {} ms)
  rules : b.rules = ((additions {} ms).filter (·.stands)).map (·.rule)
  removal : ∀ id, b.remove id = b ∨ ∃ a ∈ additions {} ms, a.id = id ∧ a.stands ∧
    ∃ before after, b.entries = before ++ (a.id, a.rule) :: after ∧
      (b.remove id).entries = before ++ after
  stale : ∀ a ∈ additions {} ms, a.stands = false → b.remove a.id = b
  unremoved : b.rules = (actAll {} (unremoved {} ms)).rules

theorem accounts (ms : List (Move α)) : (actAll ({} : RuleBook α) ms).Accounts ms := by
  have hentries := entries_new ms
  refine ⟨nodup_ids_additions _ ms, hentries, ?_, fun id => ?_, fun a ha hgone => ?_, ?_⟩
  · rw [rules, hentries, standing, List.map_map]
    rfl
  · by_cases h : id ∈ (actAll ({} : RuleBook α) ms).entries.map (·.1)
    · obtain ⟨e, he, rfl⟩ := List.mem_map.mp h
      have hnodup := nodup_ids_standing ({} : RuleBook α) ms
      rw [← hentries] at hnodup
      obtain ⟨before, after, hsplit, hrest⟩ := remove_of_mem hnodup he
      rw [hentries] at he
      obtain ⟨a, ha, hstands, rfl⟩ := mem_standing.mp he
      exact .inr ⟨a, ha, rfl, hstands, before, after, hsplit, hrest⟩
    · exact .inl (remove_of_not_mem h)
  · refine remove_of_not_mem fun h => ?_
    obtain ⟨e, he, hid⟩ := List.mem_map.mp h
    rw [hentries] at he
    rw [(eq_of_mem_standing ha he hid).1] at hgone
    cases hgone
  · rw [rules, hentries, rules, entries_new, rules_unremoved]

end RuleBook

inductive RuleEvent
  | request (m : RuleBook.Move RequestRule)
  | response (m : RuleBook.Move ResponseRule)
  | revert (u : Undo)
  deriving DecidableEq, Repr

def RuleEvent.request? : RuleEvent → Option (RuleBook.Move RequestRule)
  | .request m => some m
  | .revert (.requestRule id) => some (.remove id)
  | _ => none

def RuleEvent.response? : RuleEvent → Option (RuleBook.Move ResponseRule)
  | .response m => some m
  | .revert (.responseRule id) => some (.remove id)
  | _ => none

namespace World

def happen (w : World) : RuleEvent → World
  | .request m => { w with requests := w.requests.act m }
  | .response m => { w with responses := w.responses.act m }
  | .revert u => (u.revert.run w).2

def happenAll (w : World) (es : List RuleEvent) : World := es.foldl happen w

/-- Taking a change back touches a rule for a recorded rule only, and just the one of its number. -/
theorem books_revert (u : Undo) (w : World) :
    (u.revert.run w).2.requests = w.requests.actAll (RuleEvent.revert u).request?.toList ∧
      (u.revert.run w).2.responses = w.responses.actAll (RuleEvent.revert u).response?.toList := by
  cases u with
  | property n path before after =>
    rw [Change.run_revert_property, Change.run_setProperty]
    split
    · split <;> exact ⟨rfl, rfl⟩
    · exact ⟨rfl, rfl⟩
  | insertion n =>
    rw [Change.run_revert_insertion, Change.run_remove]
    split
    · split <;> exact ⟨rfl, rfl⟩
    · exact ⟨rfl, rfl⟩
  | requestRule id => exact ⟨rfl, rfl⟩
  | responseRule id => exact ⟨rfl, rfl⟩

theorem books_happen (w : World) (e : RuleEvent) :
    (w.happen e).requests = w.requests.actAll e.request?.toList ∧
      (w.happen e).responses = w.responses.actAll e.response?.toList := by
  cases e with
  | request m => exact ⟨rfl, rfl⟩
  | response m => exact ⟨rfl, rfl⟩
  | revert u => exact books_revert u w

theorem books_happenAll (w : World) (es : List RuleEvent) :
    (w.happenAll es).requests = w.requests.actAll (es.filterMap RuleEvent.request?) ∧
      (w.happenAll es).responses = w.responses.actAll (es.filterMap RuleEvent.response?) := by
  induction es generalizing w with
  | nil => exact ⟨rfl, rfl⟩
  | cons e es ih =>
    obtain ⟨hrequests, hresponses⟩ := books_happen w e
    obtain ⟨hmore, hmore'⟩ := ih (w.happen e)
    have hmoves {α : Type} (f : RuleEvent → Option (RuleBook.Move α)) :
        (e :: es).filterMap f = (f e).toList ++ es.filterMap f := by
      rw [List.filterMap_cons]
      cases f e <;> rfl
    rw [hmoves, hmoves, RuleBook.actAll_append, RuleBook.actAll_append, ← hrequests, ← hresponses]
    exact ⟨hmore, hmore'⟩

/-- Taking changes back, in any order and as often as one likes, leaves all rules in their places
whose own record is not among them. -/
theorem entries_revertAll (us : List Undo) (w : World) :
    (Runner.revertAll us w).requests.entries =
        w.requests.entries.filter (fun e => !us.contains (.requestRule e.1)) ∧
      (Runner.revertAll us w).responses.entries =
        w.responses.entries.filter fun e => !us.contains (.responseRule e.1) := by
  induction us generalizing w with
  | nil => simp [Runner.revertAll]
  | cons u us ih =>
    obtain ⟨hrequests, hresponses⟩ := books_revert u w
    obtain ⟨hmore, hmore'⟩ := ih (u.revert.run w).2
    rw [Runner.revertAll, hmore, hmore', hrequests, hresponses]
    cases u <;> simp [RuleEvent.request?, RuleEvent.response?, RuleBook.actAll, RuleBook.act,
      RuleBook.remove, List.filter_filter, Bool.and_comm]

end World

/-- Whatever rules are added and taken out, and whatever changes are taken back when: a book gives
out no number twice, it holds the rules that were added since it was last emptied and not taken out,
in order, and a number takes out its own rule or none. So taking changes back leaves the rules of
all others alone, and a response is changed as if the rules that were taken out had never been
added. -/
theorem rules_account (page : Page) (es : List RuleEvent) :
    let w := ({ page } : World).happenAll es
    let requests := es.filterMap RuleEvent.request?
    let responses := es.filterMap RuleEvent.response?
    w.requests.Accounts requests ∧ w.responses.Accounts responses ∧
      (∀ rule, (Change.addRequest rule).run w =
        (.ok (.requestRule (w.requests.add rule).1), w.happen (.request (.add rule)))) ∧
      (∀ rule, (Change.addResponse rule).run w =
        (.ok (.responseRule (w.responses.add rule).1), w.happen (.response (.add rule)))) ∧
      (∀ us, (Runner.revertAll us w).requests.entries =
          w.requests.entries.filter (fun e => !us.contains (.requestRule e.1)) ∧
        (Runner.revertAll us w).responses.entries =
          w.responses.entries.filter fun e => !us.contains (.responseRule e.1)) ∧
      ∀ url body, w.responses.run url body =
        ResponseRules.run (.actAll {} (RuleBook.unremoved {} responses)) url body := by
  intro w requests responses
  obtain ⟨hrequests, hresponses⟩ := World.books_happenAll { page } es
  have hasked : w.requests.Accounts requests := by
    rw [show w.requests = RuleBook.actAll {} requests from hrequests]
    exact RuleBook.accounts requests
  have hanswered : w.responses.Accounts responses := by
    rw [show w.responses = RuleBook.actAll {} responses from hresponses]
    exact RuleBook.accounts responses
  refine ⟨hasked, hanswered, fun _ => rfl, fun _ => rfl, fun us => w.entries_revertAll us, ?_⟩
  intro url body
  rw [ResponseRules.run, hanswered.unremoved]
  rfl

example :
    let rule (url : String) : RequestRule := { action := .block, url, value := "" }
    let w := ({ page := .blank "x" } : World).happenAll [.request (.add (rule "a")),
      .request (.add (rule "b")), .revert (.requestRule 1), .request .clear,
      .request (.add (rule "c")), .revert (.requestRule 2), .revert (.requestRule 1)]
    w.requests.entries = [(3, rule "c")] := by
  decide

end PageOverlay
