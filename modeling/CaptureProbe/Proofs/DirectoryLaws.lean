import CaptureProbe.Directory

/-!
Files are found again where they were put. A file that is put where a path leads takes nothing out of
the way of another path: all paths lead where they led before, and every other file reads as before.
-/

namespace CaptureProbe.Directory

def place? (d : Directory) (path : String) : Option Place := (d.locate path).toOption

def contents? (d : Directory) (path : String) : Option String := (d.place? path).bind d.read?

/-- Something can be written at a place: a file or a device is there, or new entries are not barred. -/
def Writable (d : Directory) (place : Place) : Prop :=
  d.isFile place = true ∨ (d.device? place).isSome = true ∨ d.seal? place = none

variable (d : Directory)

@[simp] theorem read?_put (place : Place) (text : String) :
    (d.put place text).read? place = some text := by
  have gone : (d.files.filter (·.1 != place)).find? (·.1 == place) = none := by
    apply List.find?_eq_none.mpr
    intro file kept
    have other := (List.mem_filter.mp kept).2
    simpa using other
  rw [read?, put, List.find?_append, gone]
  simp

theorem read?_put_of_ne {place other : Place} (differ : other ≠ place) (text : String) :
    (d.put place text).read? other = d.read? other := by
  have last : [(place, text)].find? (·.1 == other) = none := by simp [differ.symm]
  rw [read?, put, List.find?_append, last, Option.or_none, List.find?_filter, read?]
  congr 2
  funext file
  by_cases here : file.1 = other
  · simp [here, differ]
  · simp [here]

theorem isFile_put (place other : Place) (text : String) :
    (d.put place text).isFile other = true ↔ d.isFile other = true ∨ other = place := by
  by_cases same : other = place
  · simp [isFile, put, same]
  · simp [isFile, put, same, Ne.symm same]

-- A new file can only turn one fault of a step into another.
theorem enter_put (new : Place) (text : String) (place : Place) (name : String) :
    ((d.put new text).enter place name).toOption = (d.enter place name).toOption := by
  have links : (d.put new text).link? = d.link? := rfl
  have folders : (d.put new text).isFolder = d.isFolder := rfl
  unfold enter
  simp only [links, folders]
  split
  · rfl
  split
  · rfl
  split
  · rfl
  split
  · rfl
  split
  · rfl
  split <;> split <;> rfl

section Put

variable {d} {new : Place} (text : String)

theorem target_put (writable : d.Writable new) (place : Place) (name : String) :
    ((d.put new text).target place name).toOption = (d.target place name).toOption := by
  have links : (d.put new text).link? = d.link? := rfl
  have folders : (d.put new text).isFolder = d.isFolder := rfl
  have devices : (d.put new text).device? = d.device? := rfl
  have seals : (d.put new text).seal? = d.seal? := rfl
  unfold target
  simp only [links, folders, devices, seals, isFile_put]
  split
  · rfl
  split
  · rfl
  split
  · rfl
  -- the last name is new to one of the two at most, and then nothing bars it
  by_cases known : d.isFile (place ++ [name]) = true ∨ (d.device? (place ++ [name])).isSome = true
  · have still : (d.isFile (place ++ [name]) = true ∨ place ++ [name] = new) ∨
        (d.device? (place ++ [name])).isSome = true := by
      rcases known with file | device
      · exact Or.inl (Or.inl file)
      · exact Or.inr device
    rw [if_pos known, if_pos still]
  · rw [if_neg known]
    by_cases here : place ++ [name] = new
    · have free : d.seal? (place ++ [name]) = none := by
        rw [here] at known ⊢
        rcases writable with file | device | free
        · exact absurd (Or.inl file) known
        · exact absurd (Or.inr device) known
        · exact free
      rw [free, if_pos (Or.inl (Or.inr here))]
    · simp only [here, or_false, known, if_false]

theorem eq_ok_of_toOption {α : Type} {x : Except Fault α} {a : α} (found : x.toOption = some a) :
    x = .ok a := by
  cases x with
  | error fault => cases found
  | ok b =>
      cases found
      rfl

theorem cases_of_toOption {α : Type} {x y : Except Fault α} (same : x.toOption = y.toOption) :
    (∃ one other, x = .error one ∧ y = .error other) ∨ ∃ a, x = .ok a ∧ y = .ok a := by
  cases x with
  | error one =>
      cases y with
      | error other => exact Or.inl ⟨one, other, rfl, rfl⟩
      | ok b => cases same
  | ok a =>
      cases y with
      | error other => cases same
      | ok b =>
          cases same
          exact Or.inr ⟨a, rfl, rfl⟩

theorem followTo_put (writable : d.Writable new) {jump leap : List String → Except Fault Place}
    (same : ∀ names, (leap names).toOption = (jump names).toOption) (place : Place)
    (names : List String) :
    ((d.put new text).followTo leap place names).toOption =
      (d.followTo jump place names).toOption := by
  induction names generalizing place with
  | nil => rfl
  | cons name rest ih =>
      cases rest with
      | nil =>
          rcases cases_of_toOption (target_put text writable place name) with
            ⟨one, other, after, before⟩ | ⟨step, after, before⟩
          · simp only [followTo, after, before, Except.toOption]
          · rcases step with last | names
            · simp only [followTo, after, before]
            · simp only [followTo, after, before, same]
      | cons next more =>
          rcases cases_of_toOption (d.enter_put new text place name) with
            ⟨one, other, after, before⟩ | ⟨step, after, before⟩
          · simp only [followTo, after, before, Except.toOption]
          · rcases step with inside | names
            · simp only [followTo, after, before, ih]
            · simp only [followTo, after, before, same]

theorem follow_put (writable : d.Writable new) (links : Nat) (place : Place) (names : List String) :
    ((d.put new text).follow links place names).toOption = (d.follow links place names).toOption := by
  induction links generalizing place names with
  | zero => exact followTo_put text writable (fun _ => rfl) place names
  | succ links ih => exact followTo_put text writable (fun names => ih [] names) place names

-- A path that ends in a slash leads nowhere, with or without the file.
theorem locateNames_put (writable : d.Writable new) (start : Place) (names : List String) :
    ((d.put new text).locateNames start names).toOption = (d.locateNames start names).toOption := by
  unfold locateNames
  dsimp only
  split
  · exact follow_put text writable mostLinks start _
  · split <;> split <;> rfl

theorem place?_put (writable : d.Writable new) (path : String) :
    (d.put new text).place? path = d.place? path := by
  unfold place? locate
  split
  · rfl
  split
  · rfl
  split
  · rfl
  exact locateNames_put text writable (d.startOf path) (components path)

end Put

section Locate

variable {d} {place : Place}

theorem writable_of_target {at_ : Place} {name : String} (found : d.target at_ name = .ok (.to place)) :
    d.Writable place := by
  unfold target at found
  dsimp only at found
  split at found
  · cases found
  split at found
  · cases found
  split at found
  · cases found
  split at found
  · rename_i known
    cases found
    rcases known with file | device
    · exact Or.inl file
    · exact Or.inr (Or.inl device)
  · split at found
    · cases found
    · rename_i free
      cases found
      exact Or.inr (Or.inr free)

theorem writable_of_followTo {jump : List String → Except Fault Place}
    (jumps : ∀ names place, jump names = .ok place → d.Writable place) {at_ : Place}
    {names : List String} (found : d.followTo jump at_ names = .ok place) : d.Writable place := by
  induction names generalizing at_ with
  | nil => cases found
  | cons name rest ih =>
      cases rest with
      | nil =>
          simp only [followTo] at found
          split at found
          · cases found
          · rename_i last target
            cases found
            exact writable_of_target target
          · exact jumps _ _ found
      | cons next more =>
          simp only [followTo] at found
          split at found
          · cases found
          · exact ih found
          · exact jumps _ _ found

theorem writable_of_follow {links : Nat} {at_ : Place} {names : List String}
    (found : d.follow links at_ names = .ok place) : d.Writable place := by
  induction links generalizing at_ names place with
  | zero => exact writable_of_followTo (fun _ _ none_ => by cases none_) found
  | succ links ih => exact writable_of_followTo (fun _ _ further => ih further) found

-- A path leads to what can be written.
theorem writable_of_place? {path : String} (found : d.place? path = some place) :
    d.Writable place := by
  unfold place? locate at found
  split at found
  · cases found
  split at found
  · cases found
  split at found
  · cases found
  unfold locateNames at found
  dsimp only at found
  split at found
  · exact writable_of_follow (eq_ok_of_toOption found)
  · split at found <;> cases found

end Locate
end CaptureProbe.Directory
