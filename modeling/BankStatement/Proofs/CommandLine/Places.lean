import BankStatement.CommandLine.Directory

/-!
# Paths and files

Where a path leads depends on the names of the files in a directory, so it may lead elsewhere once a
file was put there.  It does not for the paths of a conversion: when a file is put where an output
path leads, that path leads to the file afterwards (`LeadsToOutput.put`), and paths that led to
other files still lead to these (`lead_put`).

The walk along a path goes through directories, and the new file takes the place of none of them:
names of places are different (`nameOf_inj`), since their parts have no slashes.
-/

namespace BankStatement.Directory

/-! ## Names of places -/

/-- No part of the place has a slash. -/
def Clean (place : Place) : Prop :=
  ∀ part ∈ place, '/' ∉ part.toList

theorem Clean.append {here : Place} (h : Clean here) {part : String} (hpart : '/' ∉ part.toList) :
    Clean (here ++ [part]) := by
  simpa [Clean, or_imp, forall_and] using And.intro h hpart

theorem clean_above {place : Place} (h : Clean place) : Clean (above place) := by
  have hup : '/' ∉ "..".toList := by decide
  unfold above
  split
  · exact h
  · split
    · exact h.append hup
    · exact h.append hup
    · exact fun part hpart => h part ((List.dropLast_sublist place).subset hpart)

/-- A name belongs to one place. -/
theorem nameOf_inj {first second : Place} (hfirst : first ≠ []) (hsecond : second ≠ [])
    (hcleanFirst : Clean first) (hcleanSecond : Clean second) (h : nameOf first = nameOf second) :
    first = second := by
  -- the parts are what slashes split the name into
  have hparts : ∀ {place : Place}, place ≠ [] → Clean place →
      (nameOf place).toList.splitOn '/' = place.map String.toList := by
    intro place hplace hclean
    have hslash : "/".toList = ['/'] := by decide
    rw [nameOf, String.toList_intercalate, hslash]
    apply List.splitOn_intercalate
    · exact List.forall_mem_map.mpr hclean
    · simpa using hplace
  have hmap := (hparts hfirst hcleanFirst).symm.trans (h ▸ hparts hsecond hcleanSecond)
  exact (List.map_inj_right fun _ _ => String.toList_inj.mp).mp hmap

theorem not_mem_of_mem_splitOn {α : Type} [BEq α] [LawfulBEq α] {separator : α} :
    ∀ {xs part : List α}, part ∈ xs.splitOn separator → separator ∉ part
  | [], part, h => by
      rw [List.splitOn_nil, List.mem_singleton] at h
      rw [h]
      exact List.not_mem_nil
  | x :: rest, part, h => by
      obtain ⟨first, others, hsplit⟩ :=
        List.exists_cons_of_ne_nil (List.splitOn_ne_nil separator rest)
      have hrest : ∀ part ∈ first :: others, separator ∉ part := fun part hpart =>
        not_mem_of_mem_splitOn (hsplit ▸ hpart)
      rw [List.splitOn_cons_eq_if_modifyHead, hsplit, List.modifyHead_cons] at h
      split at h
      · rcases List.mem_cons.mp h with rfl | h
        · exact List.not_mem_nil
        · exact hrest part h
      · rename_i hx
        rcases List.mem_cons.mp h with rfl | h
        · refine List.not_mem_cons_of_ne_of_not_mem ?_ (hrest first (List.mem_cons_self ..))
          rintro rfl
          exact hx (beq_self_eq_true _)
        · exact hrest part (List.mem_cons_of_mem _ h)

theorem clean_partsOf (path : String) : Clean (partsOf path) := by
  intro part hpart
  obtain ⟨chars, hchars, rfl⟩ := List.mem_map.mp hpart
  rw [String.toList_ofList]
  exact not_mem_of_mem_splitOn (List.mem_filter.mp hchars).1

/-! ## Directories with the same files -/

section

variable {first second : Directory} (h : first.files = second.files)

include h

theorem content?_of_files (name : String) : first.content? name = second.content? name := by
  unfold content?
  rw [h]

theorem look_of_files (here : Place) (part : String) :
    first.look here part = second.look here part := by
  unfold look content? hasDirectory
  rw [h]

theorem walk_of_files (parts : List String) :
    ∀ here, first.walk here parts = second.walk here parts := by
  induction parts with
  | nil => exact fun here => rfl
  | cons part rest ih =>
      intro here
      simp only [walk, look_of_files h, ih]

theorem lead_of_files (path : String) : first.lead path = second.lead path := by
  unfold lead walkToLast
  simp only [walk_of_files h, funext (look_of_files h _)]

theorem leadToOutput_of_files (path : String) :
    first.leadToOutput path = second.leadToOutput path := by
  unfold leadToOutput walkToLast
  simp only [walk_of_files h, look_of_files h]

end

/-! ## Files that are put -/

variable {directory : Directory}

theorem content?_put (name : String) (bytes : List UInt8) (other : String) :
    (directory.put name bytes).content? other =
      if other = name then some bytes else directory.content? other := by
  unfold put content?
  by_cases hname : other = name
  · simp [hname]
  · have hkeeps : ∀ file : String × List UInt8,
        decide ((file.1 != name) = true ∧ (file.1 == other) = true) = (file.1 == other) := by
      intro file
      by_cases hfile : file.1 = other
      · simp [hfile, hname]
      · simp [hfile]
    rw [List.find?_cons_of_neg (by simpa using Ne.symm hname), if_neg hname, List.find?_filter]
    simp only [hkeeps]

theorem hasDirectory_put {place : Place} (h : directory.hasDirectory place = true) (name : String)
    (bytes : List UInt8) : (directory.put name bytes).hasDirectory place = true := by
  simp only [hasDirectory, Bool.or_eq_true, List.any_append, List.any_map] at h ⊢
  refine h.imp_right (Or.imp_right fun hinside => ?_)
  obtain ⟨file, hfile, hprefix⟩ := List.any_eq_true.mp hinside
  by_cases hname : file.1 = name
  · exact List.any_eq_true.mpr ⟨(name, bytes), List.mem_cons_self .., hname ▸ hprefix⟩
  · refine List.any_eq_true.mpr ⟨file, List.mem_cons_of_mem _ ?_, hprefix⟩
    exact List.mem_filter.mpr ⟨hfile, by simpa using hname⟩

/-! ## Parts of paths -/

/-- A part of a path that is no detour and not too long. -/
def IsName (part : String) : Prop :=
  part ≠ "." ∧ part ≠ ".." ∧ part.utf8ByteSize ≤ longestPart

theorem look_of_isName {part : String} (h : IsName part) (here : Place) :
    directory.look here part =
      if (directory.content? (nameOf (here ++ [part]))).isSome then .file (nameOf (here ++ [part]))
      else match devices.find? fun device => device.1 == nameOf (here ++ [part]) with
        | some device => .device device.2
        | none =>
            if directory.hasDirectory (here ++ [part]) then .directory (here ++ [part])
            else .vacant (nameOf (here ++ [part])) := by
  obtain ⟨hdot, hup, hlength⟩ := h
  exact (if_neg hdot).trans ((if_neg hup).trans (if_neg (Nat.not_lt.mpr hlength)))

/-- What is no name leads to the same from a place in every directory. -/
theorem look_of_not_isName {part : String} (h : ¬IsName part) (here : Place) :
    directory.look here part =
      if part = "." then .directory here
      else if part = ".." then .directory (above here)
      else .nothing nameTooLong := by
  simp only [look]
  split
  · rfl
  · rename_i hdot
    split
    · rfl
    · rename_i hup
      rw [if_pos (Nat.lt_of_not_le fun hlength => h ⟨hdot, hup, hlength⟩)]

/-- A part of a path leads to a file when it is its name there. -/
theorem look_eq_file_iff {here : Place} {part name : String} :
    directory.look here part = .file name ↔
      IsName part ∧ nameOf (here ++ [part]) = name ∧ (directory.content? name).isSome := by
  by_cases hpart : IsName part
  · rw [look_of_isName hpart, and_iff_right hpart]
    constructor
    · intro h
      split at h
      · rename_i hfile
        cases h
        exact ⟨rfl, hfile⟩
      · split at h
        · cases h
        · split at h <;> cases h
    · rintro ⟨rfl, hfile⟩
      exact if_pos hfile
  · rw [look_of_not_isName hpart]
    refine ⟨fun h => ?_, fun h => absurd h.1 hpart⟩
    split at h
    · cases h
    · split at h <;> cases h

theorem look_eq_vacant {here : Place} {part name : String}
    (h : directory.look here part = .vacant name) :
    IsName part ∧ nameOf (here ++ [part]) = name ∧
      directory.hasDirectory (here ++ [part]) = false := by
  by_cases hpart : IsName part
  · rw [look_of_isName hpart] at h
    split at h
    · cases h
    · split at h
      · cases h
      · split at h
        · cases h
        · rename_i hdirectory
          cases h
          exact ⟨hpart, rfl, by simpa using hdirectory⟩
  · rw [look_of_not_isName hpart] at h
    split at h
    · cases h
    · split at h <;> cases h

/-- A part of a path leads to a directory when it is a detour, or when it is its name there and
nothing else has the name. -/
theorem look_eq_directory_iff {here there : Place} {part : String} :
    directory.look here part = .directory there ↔
      part = "." ∧ here = there ∨ part = ".." ∧ above here = there ∨
        IsName part ∧ here ++ [part] = there ∧ (directory.content? (nameOf there)).isSome = false ∧
          (devices.find? fun device => device.1 == nameOf there) = none ∧
          directory.hasDirectory there = true := by
  by_cases hpart : IsName part
  · obtain ⟨hdot, hup, _⟩ := id hpart
    simp only [hdot, hup, hpart, false_and, true_and, false_or]
    rw [look_of_isName hpart]
    constructor
    · intro h
      split at h
      · cases h
      · rename_i hfile
        split at h
        · cases h
        · rename_i hdevice
          split at h
          · rename_i hdirectory
            cases h
            exact ⟨rfl, by simpa using hfile, hdevice, hdirectory⟩
          · cases h
    · rintro ⟨rfl, hfile, hdevice, hdirectory⟩
      simp [hfile, hdevice, hdirectory]
  · rw [look_of_not_isName hpart]
    simp only [hpart, false_and, or_false]
    by_cases hdot : part = "."
    · simp [hdot]
    · by_cases hup : part = ".."
      · simp [hup]
      · simp [hdot, hup]

/-! ## Paths after a file was put -/

/-- A file can have the name: unless there is one, no directory has it. -/
def Takes (directory : Directory) (name : String) : Prop :=
  ∃ place : Place, place ≠ [] ∧ Clean place ∧ nameOf place = name ∧
    (directory.hasDirectory place = true → (directory.content? name).isSome)

theorem takes_of_look {here : Place} {part name : String} (hhere : Clean here)
    (hpart : '/' ∉ part.toList)
    (h : directory.look here part = .file name ∨ directory.look here part = .vacant name) :
    directory.Takes name := by
  rcases h with h | h
  · obtain ⟨_, hname, hfile⟩ := look_eq_file_iff.mp h
    exact ⟨here ++ [part], by simp, hhere.append hpart, hname, fun _ => hfile⟩
  · obtain ⟨_, hname, hdirectory⟩ := look_eq_vacant h
    exact ⟨here ++ [part], by simp, hhere.append hpart, hname, by simp [hdirectory]⟩

theorem isSome_content?_put {name : String} (bytes : List UInt8) {other : String}
    (h : other = name ∨ (directory.content? other).isSome) :
    ((directory.put name bytes).content? other).isSome := by
  rw [content?_put]
  split
  · rfl
  · rename_i hne
    exact h.resolve_left hne

/-- What led to a file still does, and what led to the name that was vacant leads to the file. -/
theorem look_put_file {name : String} (bytes : List UInt8) {here : Place} {part other : String}
    (h : directory.look here part = .file other ∨
      other = name ∧ directory.look here part = .vacant other) :
    (directory.put name bytes).look here part = .file other := by
  rw [look_eq_file_iff]
  rcases h with h | ⟨rfl, h⟩
  · obtain ⟨hpart, rfl, hfile⟩ := look_eq_file_iff.mp h
    exact ⟨hpart, rfl, isSome_content?_put bytes (.inr hfile)⟩
  · obtain ⟨hpart, rfl, _⟩ := look_eq_vacant h
    exact ⟨hpart, rfl, isSome_content?_put bytes (.inl rfl)⟩

/-- Directories that parts of a path lead to are still there. -/
theorem look_put_directory {name : String} (hname : directory.Takes name) (bytes : List UInt8)
    {here there : Place} {part : String} (hhere : Clean here) (hpart : '/' ∉ part.toList)
    (h : directory.look here part = .directory there) :
    (directory.put name bytes).look here part = .directory there := by
  rw [look_eq_directory_iff] at h ⊢
  refine h.imp_right (Or.imp_right ?_)
  rintro ⟨hpartName, rfl, hfile, hdevice, hdirectory⟩
  -- the file has another name
  have hne : nameOf (here ++ [part]) ≠ name := by
    rintro rfl
    obtain ⟨place, hplace, hclean, hsame, htakes⟩ := hname
    obtain rfl := nameOf_inj hplace (by simp) hclean (hhere.append hpart) hsame
    simp [htakes hdirectory] at hfile
  refine ⟨hpartName, rfl, ?_, hdevice, hasDirectory_put hdirectory name bytes⟩
  rw [content?_put, if_neg hne, hfile]

theorem clean_look {here there : Place} {part : String} (hhere : Clean here)
    (hpart : '/' ∉ part.toList) (h : directory.look here part = .directory there) :
    Clean there := by
  rcases look_eq_directory_iff.mp h with ⟨_, rfl⟩ | ⟨_, rfl⟩ | ⟨_, rfl, _⟩
  · exact hhere
  · exact clean_above hhere
  · exact hhere.append hpart

theorem clean_walk : ∀ {parts : List String} {here there : Place}, Clean here → Clean parts →
    directory.walk here parts = .ok there → Clean there
  | [], here, there, hhere, _, h => by
      cases h
      exact hhere
  | part :: rest, here, there, hhere, hparts, h => by
      obtain ⟨hpart, hrest⟩ := List.forall_mem_cons.mp hparts
      rw [walk] at h
      cases hlook : directory.look here part with
      | directory next =>
          rw [hlook] at h
          exact clean_walk (clean_look hhere hpart hlook) hrest h
      | _ =>
          rw [hlook] at h
          cases h

/-- The directories that parts of a path go through are all still there. -/
theorem walk_put {name : String} (hname : directory.Takes name) (bytes : List UInt8) :
    ∀ {parts : List String} {here there : Place}, Clean here → Clean parts →
      directory.walk here parts = .ok there → (directory.put name bytes).walk here parts = .ok there
  | [], here, there, _, _, h => h
  | part :: rest, here, there, hhere, hparts, h => by
      obtain ⟨hpart, hrest⟩ := List.forall_mem_cons.mp hparts
      rw [walk] at h
      cases hlook : directory.look here part with
      | directory next =>
          rw [hlook] at h
          rw [walk, look_put_directory hname bytes hhere hpart hlook]
          exact walk_put hname bytes (clean_look hhere hpart hlook) hrest h
      | _ =>
          rw [hlook] at h
          cases h

/-- How the directory is reached in which the last part of a path is looked for. -/
theorem walkToLast_eq_ok {path : String} {here : Place} :
    directory.walkToLast path = .ok here ↔
      path.isEmpty = false ∧ path.utf8ByteSize ≤ longestPath ∧
        directory.walk (if startsAtRoot path then [""] else []) (partsOf path).dropLast =
          .ok here := by
  unfold walkToLast
  split
  · rename_i hempty
    simp [hempty]
  · rename_i hempty
    split
    · rename_i hlength
      simp [Nat.not_le.mpr hlength]
    · rename_i hlength
      simp [hempty, Nat.not_lt.mp hlength]

theorem clean_start (path : String) : Clean (if startsAtRoot path then [""] else []) := by
  split
  · simp [Clean]
  · exact List.forall_mem_nil _

theorem clean_dropLast (path : String) : Clean (partsOf path).dropLast := fun part hpart =>
  clean_partsOf path part ((List.dropLast_sublist _).subset hpart)

theorem walkToLast_put {name : String} (hname : directory.Takes name) (bytes : List UInt8)
    {path : String} {here : Place} (h : directory.walkToLast path = .ok here) :
    (directory.put name bytes).walkToLast path = .ok here := by
  obtain ⟨hempty, hlength, hwalk⟩ := walkToLast_eq_ok.mp h
  exact walkToLast_eq_ok.mpr
    ⟨hempty, hlength, walk_put hname bytes (clean_start path) (clean_dropLast path) hwalk⟩

/-- The last part of a path to a file. -/
theorem lead_eq_file_iff {path name : String} :
    directory.lead path = .file name ↔
      ∃ here part, directory.walkToLast path = .ok here ∧ (partsOf path).getLast? = some part ∧
        endsInSlash path = false ∧ directory.look here part = .file name := by
  constructor
  · intro h
    unfold lead at h
    cases hwalk : directory.walkToLast path with
    | error reason => simp [hwalk] at h
    | ok here =>
        cases hlast : (partsOf path).getLast? with
        | none => simp [hwalk, hlast] at h
        | some part =>
            cases hlook : directory.look here part with
            | file found =>
                cases hslash : endsInSlash path with
                | true => simp [hwalk, hlast, hlook, hslash] at h
                | false =>
                    simp only [hwalk, hlast, hlook, hslash, Option.map_some] at h
                    exact ⟨here, part, rfl, rfl, rfl, hlook.trans h⟩
            | device device =>
                cases hslash : endsInSlash path <;> simp [hwalk, hlast, hlook, hslash] at h
            | _ => simp [hwalk, hlast, hlook] at h
  · rintro ⟨here, part, hwalk, hlast, hslash, hlook⟩
    simp [lead, hwalk, hlast, hslash, hlook]

/-- A path to a file leads to it after another file was put. -/
theorem lead_put {name : String} (hname : directory.Takes name) (bytes : List UInt8)
    {path other : String} (h : directory.lead path = .file other) :
    (directory.put name bytes).lead path = .file other := by
  obtain ⟨here, part, hwalk, hlast, hslash, hlook⟩ := lead_eq_file_iff.mp h
  exact lead_eq_file_iff.mpr ⟨here, part, walkToLast_put hname bytes hwalk, hlast, hslash,
    look_put_file bytes (.inl hlook)⟩

/-! ## Outputs -/

/-- The path leads to a file of the name, or to where one can be made. -/
def LeadsToOutput (directory : Directory) (path name : String) : Prop :=
  directory.leadToOutput path = .file name ∨ directory.leadToOutput path = .vacant name

/-- The last part of a path to an output. -/
theorem LeadsToOutput.exists_look {path name : String} (h : directory.LeadsToOutput path name) :
    ∃ here part, directory.walkToLast path = .ok here ∧ (partsOf path).getLast? = some part ∧
      endsInSlash path = false ∧
        (directory.look here part = .file name ∨ directory.look here part = .vacant name) := by
  unfold LeadsToOutput leadToOutput at h
  cases hwalk : directory.walkToLast path with
  | error reason => simp [hwalk] at h
  | ok here =>
      cases hlast : (partsOf path).getLast? with
      | none => simp [hwalk, hlast] at h
      | some part =>
          cases hslash : endsInSlash path with
          | true => simp [hwalk, hlast, hslash] at h
          | false =>
              simp only [hwalk, hlast, hslash, Bool.false_eq_true, if_false] at h
              exact ⟨here, part, rfl, rfl, rfl, h⟩

theorem LeadsToOutput.takes {path name : String} (h : directory.LeadsToOutput path name) :
    directory.Takes name := by
  obtain ⟨here, part, hwalk, hlast, _, hlook⟩ := h.exists_look
  obtain ⟨_, _, hwalk⟩ := walkToLast_eq_ok.mp hwalk
  have hhere := clean_walk (clean_start path) (clean_dropLast path) hwalk
  exact takes_of_look hhere (clean_partsOf path part (List.mem_of_getLast? hlast)) hlook

/-- The path to an output leads to the file that was put there. -/
theorem LeadsToOutput.put {path name : String} (h : directory.LeadsToOutput path name)
    (bytes : List UInt8) : (directory.put name bytes).leadToOutput path = .file name := by
  obtain ⟨here, part, hwalk, hlast, hslash, hlook⟩ := h.exists_look
  have hfile : (directory.put name bytes).look here part = .file name :=
    look_put_file bytes (hlook.imp_right fun hvacant => ⟨rfl, hvacant⟩)
  unfold leadToOutput
  simp [walkToLast_put h.takes bytes hwalk, hlast, hslash, hfile]

end BankStatement.Directory
