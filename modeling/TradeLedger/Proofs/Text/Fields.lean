import TradeLedger.Text.Basic

/-! Fields divided by commas. What is joined with commas is divided into the fields of its parts, and no field has a
comma, so exactly the parts without one come back as they are. -/
namespace TradeLedger.Text

theorem fieldsBy_eq_splitOn {α : Type} [DecidableEq α] (mark : α) (xs : List α) :
    fieldsBy mark xs = xs.splitOn mark := by
  induction xs with
  | nil => rfl
  | cons x xs ih =>
    rw [fieldsBy, List.splitOn_cons_eq_if_modifyHead, ih]
    by_cases same : x = mark
    · rw [if_pos same, if_pos (beq_iff_eq.mpr same)]
    · rw [if_neg same, if_neg (by simpa using same)]
      cases fields : xs.splitOn mark with
      | nil => exact absurd fields (List.splitOn_ne_nil mark xs)
      | cons field fields => rfl

/-- No field holds the mark that divides it from the others. -/
theorem not_mem_of_mem_fieldsBy {α : Type} [DecidableEq α] {mark : α} {xs field : List α}
    (member : field ∈ fieldsBy mark xs) : mark ∉ field := by
  induction xs generalizing field with
  | nil =>
    rw [List.mem_singleton.mp member]
    exact List.not_mem_nil
  | cons x xs ih =>
    rw [fieldsBy] at member
    split at member
    case isTrue =>
      rcases List.mem_cons.mp member with rfl | later
      · exact List.not_mem_nil
      · exact ih later
    case isFalse other =>
      cases fields : fieldsBy mark xs with
      | nil => exact absurd (fieldsBy_eq_splitOn mark xs ▸ fields) (List.splitOn_ne_nil mark xs)
      | cons first fields' =>
        rw [fields] at member ih
        rcases List.mem_cons.mp member with rfl | later
        · rw [List.mem_cons, not_or]
          exact ⟨Ne.symm other, ih List.mem_cons_self⟩
        · exact ih (List.mem_cons_of_mem first later)

variable {text field : String}

theorem splitCommas_eq_splitOn (text : String) : splitCommas text = (text.toList.splitOn ',').map String.ofList := by
  rw [splitCommas, fieldsBy_eq_splitOn]

theorem not_comma_mem_of_mem_splitCommas (member : field ∈ splitCommas text) : ',' ∉ field.toList := by
  obtain ⟨chars, inside, rfl⟩ := List.mem_map.mp member
  rw [String.toList_ofList]
  exact not_mem_of_mem_fieldsBy inside

theorem splitCommas_of_not_mem (single : ',' ∉ text.toList) : splitCommas text = [text] := by
  rw [splitCommas_eq_splitOn, List.splitOn_eq_singleton single, List.map_singleton, String.ofList_toList]

/-- Joined texts are divided into the fields of each. -/
theorem splitCommas_joinCommas {fields : List String} (nonempty : fields ≠ []) :
    splitCommas (joinCommas fields) = fields.flatMap splitCommas := by
  match fields, nonempty with
  | [field], _ => rw [joinCommas, String.intercalate_singleton, List.flatMap_singleton]
  | field :: next :: fields, _ =>
    have rest : splitCommas (joinCommas (next :: fields)) = (next :: fields).flatMap splitCommas :=
      splitCommas_joinCommas (List.cons_ne_nil next fields)
    have whole : (joinCommas (field :: next :: fields)).toList =
        field.toList ++ ',' :: (joinCommas (next :: fields)).toList := by
      simp [joinCommas]
    rw [List.flatMap_cons, ← rest, splitCommas_eq_splitOn, splitCommas_eq_splitOn, splitCommas_eq_splitOn, whole,
      List.splitOn_append_cons_self, List.map_append]

end TradeLedger.Text
