/-
Paths: how a text names a place among directories and files.

* `names_join` — joining a name to a directory puts it behind all other names;
* `names_append` — what stands behind a text belongs to its last name.
-/
import PipelineWorker.Text.Separated

namespace PipelineWorker

/-- The names on the way to a place, from the root on or from the directory that the process works
in. -/
structure Path where
  absolute : Bool
  names : List String
  deriving DecidableEq, Repr

namespace Path

/-- The names between slashes.  Empty ones are dropped. -/
def parts (cs : List Char) : List String :=
  ((Separated.split '/' cs).filter (· ≠ [])).map String.ofList

/-- The path that a text spells.  A slash at the end asks for a directory, like a dot behind it. -/
def ofText (text : String) : Path :=
  let cs := text.toList
  ⟨cs.head? = some '/', if cs.getLast? = some '/' then parts cs ++ ["."] else parts cs⟩

/-- The text of a directory and a name below it. -/
def join (dir name : String) : String :=
  if dir.isEmpty then name
  else if dir.toList.getLast? = some '/' then dir ++ name
  else dir ++ "/" ++ name

@[simp] theorem parts_nil : parts [] = [] := rfl

theorem parts_append_cons (cs ds : List Char) :
    parts (cs ++ '/' :: ds) = parts cs ++ parts ds := by
  simp [parts, Separated.split_append_cons]

theorem parts_of_not_mem {name : String} (ne : name ≠ "") (h : '/' ∉ name.toList) :
    parts name.toList = [name] := by
  simp [parts, Separated.split_of_not_mem h, ne]

theorem getLast?_append_ne {cs ds : List Char} (ne : ds ≠ []) (h : '/' ∉ ds) :
    (cs ++ ds).getLast? ≠ some '/' := by
  intro last
  have some_last : ds.getLast?.isSome := by simpa using ne
  rw [List.getLast?_append, Option.or_of_isSome some_last] at last
  exact h (List.mem_of_getLast? last)

theorem split_append_of_not_mem (cs : List Char) {ds : List Char} (h : '/' ∉ ds) :
    ∃ front last, Separated.split '/' (cs ++ ds) = front ++ [last ++ ds] := by
  induction cs with
  | nil => exact ⟨[], [], by simp [Separated.split_of_not_mem h]⟩
  | cons c cs ih =>
    obtain ⟨front, last, eq⟩ := ih
    simp only [List.cons_append, Separated.split, eq]
    split
    · exact ⟨[] :: front, last, rfl⟩
    · cases front with
      | nil => exact ⟨[], c :: last, rfl⟩
      | cons f fs => exact ⟨(c :: f) :: fs, last, rfl⟩

/-- What stands behind a text, without a slash, belongs to its last name. -/
theorem names_append {text : String} {cs ds : List Char} (eq : text.toList = cs ++ ds)
    (ne : ds ≠ []) (h : '/' ∉ ds) :
    ∃ front last, (ofText text).names = front ++ [String.ofList (last ++ ds)] := by
  obtain ⟨front, last, fields⟩ := split_append_of_not_mem cs h
  refine ⟨(front.filter (· ≠ [])).map String.ofList, last, ?_⟩
  simp only [ofText, eq, getLast?_append_ne ne h, if_false, parts, fields]
  simp [ne]

/-- Joining a name to a directory puts it behind all other names. -/
theorem names_join (dir : String) {name : String} (ne : name ≠ "") (h : '/' ∉ name.toList) :
    (ofText (join dir name)).names = parts dir.toList ++ [name] := by
  have tail : ∀ cs, (cs ++ name.toList).getLast? ≠ some '/' := fun cs =>
    getLast?_append_ne (by simpa using ne) h
  have own := parts_of_not_mem ne h
  rw [join]
  split
  · have : dir = "" := by simpa using ‹dir.isEmpty = true›
    have := tail []
    simp_all [ofText]
  · split
    · rename_i last
      obtain ⟨cs, hcs⟩ := List.getLast?_eq_some_iff.1 last
      have := tail (cs ++ ['/'])
      have := parts_append_cons cs []
      have := parts_append_cons cs name.toList
      simp_all [ofText]
    · have := tail (dir.toList ++ ['/'])
      have := parts_append_cons dir.toList name.toList
      simp_all [ofText]

end Path

end PipelineWorker
