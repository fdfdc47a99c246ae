namespace TextVectors.Text

/-! Cutting texts: at separators, behind a given beginning, and around a part. -/

/-- Cuts a text at every character that satisfies `separates`; the pieces keep
their order, and there is one more piece than separators. -/
def cut (separates : Char → Bool) : List Char → List (List Char)
  | [] => [[]]
  | c :: rest =>
      if separates c then [] :: cut separates rest
      else
        match cut separates rest with
        | piece :: others => (c :: piece) :: others
        | [] => [[c]]

theorem cut_ne_nil (separates : Char → Bool) (text : List Char) : cut separates text ≠ [] := by
  cases text with
  | nil => simp [cut]
  | cons c rest =>
      unfold cut
      split
      · simp
      · split <;> simp

/-- What follows a given beginning of a text. -/
def after? : List Char → List Char → Option (List Char)
  | [], rest => some rest
  | expected :: front, c :: rest => if c = expected then after? front rest else none
  | _ :: _, [] => none

theorem after?_eq_some {front text rest : List Char} :
    after? front text = some rest ↔ text = front ++ rest := by
  induction front generalizing text with
  | nil => simp [after?, eq_comm]
  | cons expected front ih =>
      cases text with
      | nil => simp [after?]
      | cons c text =>
          by_cases same : c = expected
          · simp [after?, same, ih]
          · simp [after?, same]

/-- Whether a part occurs somewhere in a text. -/
def contains (part : List Char) : List Char → Bool
  | [] => part.isEmpty
  | c :: rest => (after? part (c :: rest)).isSome || contains part rest

end TextVectors.Text
