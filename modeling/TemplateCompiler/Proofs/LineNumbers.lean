import Mathlib.Order.Monotone.Basic
import TemplateCompiler.Template.Lines

namespace TemplateCompiler.SourceLines

theorem lt_of_mem_startsAfterFeeds {offset start : Nat} {bytes : List UInt8}
    (member : start ∈ startsAfterFeeds offset bytes) : offset < start := by
  induction bytes generalizing offset with
  | nil => cases member
  | cons byte bytes ih =>
    rw [startsAfterFeeds] at member
    split at member
    · rcases List.mem_cons.mp member with here | later
      · omega
      · have := ih later
        omega
    · have := ih member
      omega

theorem startsAfterFeeds_ascending (offset : Nat) (bytes : List UInt8) :
    (startsAfterFeeds offset bytes).Pairwise (· < ·) := by
  induction bytes generalizing offset with
  | nil => exact .nil
  | cons byte bytes ih =>
    rw [startsAfterFeeds]
    split
    · exact (ih (offset + 1)).cons fun _ later => lt_of_mem_startsAfterFeeds later
    · exact ih (offset + 1)

theorem length_startsAfterFeeds (offset : Nat) (bytes : List UInt8) :
    (startsAfterFeeds offset bytes).length = bytes.count 10 := by
  induction bytes generalizing offset with
  | nil => rfl
  | cons byte bytes ih =>
    rw [startsAfterFeeds]
    split
    · rename_i feed
      rw [feed, List.length_cons, ih, List.count_cons_self]
    · rename_i other
      rw [ih, List.count_cons_of_ne other]

/-- A line start is at most `place` if its line feed stands before `place`. -/
theorem countP_startsAfterFeeds (place offset : Nat) (bytes : List UInt8) :
    (startsAfterFeeds offset bytes).countP (· ≤ place) = (bytes.take (place - offset)).count 10 := by
  induction bytes generalizing offset with
  | nil => simp [startsAfterFeeds]
  | cons byte bytes ih =>
    by_cases reached : place ≤ offset
    · have none : (startsAfterFeeds offset (byte :: bytes)).countP (· ≤ place) = 0 := by
        refine List.countP_eq_zero.mpr fun start member => ?_
        have after := lt_of_mem_startsAfterFeeds member
        simp only [decide_eq_true_eq]
        omega
      rw [none, Nat.sub_eq_zero_of_le reached, List.take_zero, List.count_nil]
    · have begins : place - offset = (place - (offset + 1)) + 1 := by omega
      rw [begins, List.take_succ_cons, startsAfterFeeds]
      split
      · rename_i feed
        have within : offset + 1 ≤ place := by omega
        rw [feed, List.countP_cons, decide_eq_true within, if_pos rfl, ih, List.count_cons_self]
      · rename_i other
        rw [ih, List.count_cons_of_ne other]

/-- In an ascending list the numbers up to a bound come first. -/
theorem any_le_iff_lt_countP {starts : List Nat} (ascending : starts.Pairwise (· < ·))
    (offset index : Nat) :
    starts[index]?.any (· ≤ offset) = true ↔ index < starts.countP (· ≤ offset) := by
  induction starts generalizing index with
  | nil => simp
  | cons start starts ih =>
    obtain ⟨above, ascending⟩ := List.pairwise_cons.mp ascending
    by_cases within : start ≤ offset
    · rw [List.countP_cons, decide_eq_true within, if_pos rfl]
      cases index with
      | zero => simp [within]
      | succ index =>
        rw [List.getElem?_cons_succ, ih ascending]
        omega
    · have beyond : ∀ other ∈ start :: starts, ¬ other ≤ offset := by
        refine List.forall_mem_cons.mpr ⟨within, fun other later => ?_⟩
        have := above other later
        omega
      have none : (start :: starts).countP (· ≤ offset) = 0 :=
        List.countP_eq_zero.mpr fun other member => by simpa using beyond other member
      rw [none]
      refine iff_of_false (fun found => ?_) (Nat.not_lt_zero index)
      obtain ⟨other, atIndex, small⟩ := (Option.any_eq_true ..).mp found
      exact beyond other (List.mem_of_getElem? atIndex) (of_decide_eq_true small)

/-- The stretch that is still undecided always holds the place where the starts pass the offset. -/
theorem bisect_eq_countP {starts : Array Nat} (ascending : starts.toList.Pairwise (· < ·)) {offset low high : Nat}
    (lower : low ≤ starts.toList.countP (· ≤ offset)) (upper : starts.toList.countP (· ≤ offset) ≤ high) :
    bisect starts offset low high = starts.toList.countP (· ≤ offset) := by
  have decides := any_le_iff_lt_countP ascending offset
  simp only [Array.getElem?_toList] at decides
  fun_induction bisect starts offset low high with
  | case1 low high undecided middle small ih => exact ih ((decides middle).mp small) upper
  | case2 low high undecided middle large ih =>
    have passed := (decides middle).not.mp large
    exact ih lower (Nat.not_lt.mp passed)
  | case3 low high decided => omega

theorem ofText_starts (source : String) :
    (ofText source).starts.toList = 0 :: startsAfterFeeds 0 source.toUTF8.toList :=
  List.toList_toArray

theorem ofText_ascending (source : String) : (ofText source).starts.toList.Pairwise (· < ·) := by
  rw [ofText_starts]
  exact (startsAfterFeeds_ascending 0 _).cons fun _ later => lt_of_mem_startsAfterFeeds later

theorem lineOf_eq_countP (source : String) (offset : Nat) :
    (ofText source).lineOf offset = (ofText source).starts.toList.countP (· ≤ offset) :=
  bisect_eq_countP (ofText_ascending source) (Nat.zero_le _) List.countP_le_length

theorem lineOf_eq_feeds (source : String) (offset : Nat) :
    (ofText source).lineOf offset = 1 + (source.toUTF8.toList.take offset).count 10 := by
  rw [lineOf_eq_countP, ofText_starts, List.countP_cons, countP_startsAfterFeeds, Nat.sub_zero,
    decide_eq_true (Nat.zero_le offset), if_pos rfl, Nat.add_comm]

/-- The line of an offset is told by the line feeds before it. The table of line starts is strictly
ascending from 0, so that halving it finds what counting it would, and a later offset never lies on
an earlier line. -/
theorem lineOf_counts_feeds (source : String) :
    (∀ offset, (ofText source).lineOf offset = 1 + (source.toUTF8.toList.take offset).count 10) ∧
    (ofText source).starts.toList.Pairwise (· < ·) ∧
    (ofText source).starts.toList.head? = some 0 ∧
    (∀ offset, (ofText source).lineOf offset = (ofText source).starts.toList.countP (· ≤ offset)) ∧
    Monotone (ofText source).lineOf ∧
    (ofText source).starts.size = 1 + source.toUTF8.toList.count 10 ∧
    ∀ offset, 1 ≤ (ofText source).lineOf offset ∧ (ofText source).lineOf offset ≤ (ofText source).starts.size := by
  have size : (ofText source).starts.size = 1 + source.toUTF8.toList.count 10 := by
    rw [← Array.length_toList, ofText_starts, List.length_cons, length_startsAfterFeeds, Nat.add_comm]
  refine ⟨lineOf_eq_feeds source, ofText_ascending source, ?_, lineOf_eq_countP source, ?_, size, ?_⟩
  · rw [ofText_starts, List.head?_cons]
  · intro offset later ordered
    rw [lineOf_eq_feeds, lineOf_eq_feeds]
    have earlier : source.toUTF8.toList.take offset <+: source.toUTF8.toList.take later :=
      List.take_prefix_take_left ordered
    have := earlier.sublist.count_le 10
    omega
  · intro offset
    rw [lineOf_eq_feeds, size]
    have := (List.take_sublist offset source.toUTF8.toList).count_le 10
    omega

-- Offset 1 is inside a character, 2 is the line feed and 500 is past the end.
example : [0, 1, 2, 3, 500].map (ofText "é\nb").lineOf = [1, 1, 1, 2, 2] := by
  decide +kernel

end TemplateCompiler.SourceLines
