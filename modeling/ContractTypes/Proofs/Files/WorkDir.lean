import ContractTypes.Files.WorkDir
import Mathlib.Tactic.ByContra

/-!
Files that have been written.

A path that leads to a file, or to a place where one could be made, leads to that file once it has
been written.  So what is written through a path is what is read through it next.
-/

namespace ContractTypes

namespace WorkDir

variable {dir : WorkDir} {place : List Text}

theorem isDirectory_put (place other : List Text) (contents : Bytes) :
    (dir.put place contents).isDirectory other = dir.isDirectory other := by
  unfold isDirectory put
  split <;> rfl

theorem eq_of_contents?_put_ne {other : List Text} {contents : Bytes}
    (changed : (dir.put place contents).contents? other ≠ dir.contents? other) : other = place := by
  by_contra apart
  rw [contents?_put, if_neg apart] at changed
  exact changed rfl

def Target.filePlace? : Target → Option (List Text)
  | directory _ => none
  | file place _ => some place
  | free place => some place

/-- A name that does not lead to a directory is the last one, and it leads to the file of its own
place. -/
theorem last_of_follow {start rest : List Text} {name : Text} {target : Target}
    (child : name ≠ Path.parentName) (leaf : ¬dir.isDirectory (below start name) = true)
    (found : dir.follow start (name :: rest) = .ok target) :
    ¬nameLimit < (Utf8.encodeScalar name).length ∧ rest.isEmpty = true ∧
      target.filePlace? = some (below start name) := by
  rw [follow, if_neg child] at found
  by_cases long : nameLimit < (Utf8.encodeScalar name).length
  · rw [if_pos long] at found
    cases found
  · rw [if_neg long, if_neg leaf] at found
    refine ⟨long, ?_⟩
    cases old : dir.contents? (below start name) with
    | some before =>
        rw [old] at found
        dsimp only at found
        cases last : rest.isEmpty with
        | true =>
            rw [last] at found
            cases found
            exact ⟨rfl, rfl⟩
        | false =>
            rw [last] at found
            cases found
    | none =>
        rw [old] at found
        dsimp only at found
        cases last : rest.isEmpty with
        | true =>
            rw [last] at found
            cases found
            exact ⟨rfl, rfl⟩
        | false =>
            rw [last] at found
            cases found

theorem follow_put (contents : Bytes) {start names : List Text} {target : Target}
    (found : dir.follow start names = .ok target) (leads : target.filePlace? = some place) :
    (dir.put place contents).follow start names = .ok (.file place contents) := by
  induction names generalizing start with
  | nil =>
      cases found
      cases leads
  | cons name rest ih =>
      by_cases parent : name = Path.parentName
      · rw [follow, if_pos parent] at found ⊢
        exact ih found
      · by_cases inner : dir.isDirectory (below start name) = true
        · rw [follow, if_neg parent] at found ⊢
          by_cases long : nameLimit < (Utf8.encodeScalar name).length
          · rw [if_pos long] at found
            cases found
          · rw [if_neg long, if_pos inner] at found
            rw [if_neg long, isDirectory_put, if_pos inner]
            exact ih found
        · obtain ⟨short, last, here⟩ := last_of_follow parent inner found
          have same : below start name = place := Option.some.inj (here.symm.trans leads)
          rw [follow, if_neg parent, if_neg short, isDirectory_put, if_neg inner, same,
            contents?_put, if_pos rfl]
          dsimp only
          rw [if_pos last]

theorem target_put (contents : Bytes) {path : Path} {target : Target}
    (found : dir.target path = .ok target) (leads : target.filePlace? = some place) :
    (dir.put place contents).target path = .ok (.file place contents) := by
  unfold WorkDir.target at found ⊢
  by_cases long : pathLimit < (Utf8.encodeScalar path.text).length
  · rw [if_pos long] at found
    cases found
  · rw [if_neg long] at found ⊢
    exact follow_put contents found leads

theorem writable_eq_ok {path : Path} {shown : Text} (found : dir.writable path shown = .ok place) :
    hasZero path = false ∧ ∃ target, dir.target path = .ok target ∧
      target.filePlace? = some place := by
  revert found
  fun_cases writable dir path shown with
  | case1 => nofun
  | case2 zeroless first contents reached =>
      intro found
      exact ⟨Bool.eq_false_iff.2 zeroless, _, reached, congrArg some (Except.ok.inj found)⟩
  | case3 zeroless first reached =>
      intro found
      exact ⟨Bool.eq_false_iff.2 zeroless, _, reached, congrArg some (Except.ok.inj found)⟩
  | case4 => nofun
  | case5 => nofun

theorem read_put {path : Path} {shown : Text} (found : dir.writable path shown = .ok place)
    (contents : Bytes) (again : Text) :
    (dir.put place contents).read path again = .ok contents := by
  obtain ⟨zeroless, target, reached, leads⟩ := writable_eq_ok found
  unfold read
  rw [zeroless, if_neg Bool.false_ne_true, target_put contents reached leads]

theorem follow_single {start : List Text} {name : Text} (child : name ≠ Path.parentName)
    (short : ¬nameLimit < (Utf8.encodeScalar name).length) :
    dir.follow start [name] = .ok (.directory (below start name)) ∨
      (∃ contents, dir.follow start [name] = .ok (.file (below start name) contents)) ∨
        dir.follow start [name] = .ok (.free (below start name)) := by
  rw [follow, if_neg child, if_neg short]
  split
  · exact .inl rfl
  · cases dir.contents? (below start name) with
    | some contents => exact .inr (.inl ⟨contents, rfl⟩)
    | none => exact .inr (.inr rfl)

variable {front : List Text} {leaf : Text}

theorem follow_put_apart (contents : Bytes) {start names : List Text} (apart : leaf ∉ names) :
    (dir.put (front ++ [leaf]) contents).follow start names = dir.follow start names := by
  induction names generalizing start with
  | nil => rfl
  | cons name rest ih =>
      rw [List.mem_cons, not_or] at apart
      rw [follow, follow]
      by_cases parent : name = Path.parentName
      · rw [if_pos parent, if_pos parent, ih apart.2]
      · have elsewhere : below start name ≠ front ++ [leaf] := by
          intro same
          rw [below, if_neg parent] at same
          exact apart.1 (List.singleton_inj.1 (List.append_inj_right' same rfl)).symm
        rw [if_neg parent, if_neg parent, ih apart.2, isDirectory_put, contents?_put,
          if_neg elsewhere]

theorem target_put_apart (contents : Bytes) {path : Path} (apart : leaf ∉ path.names) :
    (dir.put (front ++ [leaf]) contents).target path = dir.target path := by
  unfold WorkDir.target
  rw [follow_put_apart contents apart]

theorem read_put_apart (contents : Bytes) {path : Path} (apart : leaf ∉ path.names) (shown : Text) :
    (dir.put (front ++ [leaf]) contents).read path shown = dir.read path shown := by
  unfold read
  rw [target_put_apart contents apart]

theorem writable_put_apart (contents : Bytes) {path : Path} (apart : leaf ∉ path.names)
    (shown : Text) :
    (dir.put (front ++ [leaf]) contents).writable path shown = dir.writable path shown := by
  unfold writable
  rw [target_put_apart contents apart]

end WorkDir

end ContractTypes
