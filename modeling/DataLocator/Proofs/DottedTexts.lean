import DataLocator.Proofs.Building

/-! # Dotted texts and their segments

A dotted text is cut at its dots as core's `List.splitOn` cuts a list (`splitDots_eq_splitOn`), so cutting and joining
undo each other: the segments joined by dots are the text (`intercalate_segments`), and names without dots are the
segments of their joined text (`segments_intercalate`). A path adds a hop for each segment behind the steps of its
locator (`path_of_unmerged`), so nothing of the text is lost: it can be told from the steps (`eq_of_steps`), and two
paths one behind the other are the path of the two texts with a dot between them (`path_path`).
-/

namespace DataLocator

namespace Text

theorem splitDots_eq_splitOn (text : List Char) : splitDots text = text.splitOn '.' := by
  induction text with
  | nil => rfl
  | cons c rest ih =>
    rw [splitDots, List.splitOn_cons_eq_if_modifyHead, ih]
    by_cases dot : c = '.'
    · simp [dot]
    · obtain ⟨first, others, cut⟩ := List.exists_cons_of_ne_nil (List.splitOn_ne_nil '.' rest)
      simp [dot, cut]

theorem length_splitDots (text : List Char) : (splitDots text).length = text.count '.' + 1 := by
  induction text with
  | nil => rfl
  | cons c rest ih =>
    obtain ⟨first, others, cut⟩ := List.exists_cons_of_ne_nil (splitDots_ne_nil rest)
    rw [cut, List.length_cons] at ih
    by_cases dot : c = '.' <;> simp [splitDots, dot, cut, ih]

theorem dot_not_mem_of_splitDots {text stretch : List Char} (member : stretch ∈ splitDots text) : '.' ∉ stretch := by
  induction text generalizing stretch with
  | nil =>
    obtain rfl := List.mem_singleton.1 member
    exact List.not_mem_nil
  | cons c rest ih =>
    by_cases dot : c = '.'
    · simp only [splitDots, dot, ↓reduceIte] at member
      rcases List.mem_cons.1 member with rfl | later
      · exact List.not_mem_nil
      · exact ih later
    · obtain ⟨first, others, cut⟩ := List.exists_cons_of_ne_nil (splitDots_ne_nil rest)
      rw [cut] at ih
      simp only [splitDots, dot, ↓reduceIte, cut] at member
      rcases List.mem_cons.1 member with rfl | later
      · exact List.not_mem_cons_of_ne_of_not_mem (Ne.symm dot) (ih List.mem_cons_self)
      · exact ih (List.mem_cons_of_mem first later)

theorem length_segments (text : String) : (segments text).length = text.toList.count '.' + 1 := by
  rw [segments, List.length_map, length_splitDots]

theorem dot_not_mem_of_segments {text name : String} (member : name ∈ segments text) : '.' ∉ name.toList := by
  obtain ⟨stretch, among, rfl⟩ := List.mem_map.1 member
  rw [String.toList_ofList]
  exact dot_not_mem_of_splitDots among

theorem toList_segments (text : String) : (segments text).map String.toList = text.toList.splitOn '.' := by
  simp [segments, Function.comp_def, splitDots_eq_splitOn]

/-- The segments joined by dots are the text. -/
theorem intercalate_segments (text : String) : String.intercalate "." (segments text) = text := by
  apply String.toList_inj.1
  rw [String.toList_intercalate, toList_segments]
  exact List.intercalate_splitOn '.'

/-- Names without dots are the segments of their joined text. -/
theorem segments_intercalate {names : List String} (nonempty : names ≠ [])
    (dotless : ∀ name ∈ names, '.' ∉ name.toList) : segments (String.intercalate "." names) = names := by
  have cut : (['.'].intercalate (names.map String.toList)).splitOn '.' = names.map String.toList := by
    refine List.splitOn_intercalate '.' ?_ (by simpa using nonempty)
    intro stretch member
    obtain ⟨name, among, rfl⟩ := List.mem_map.1 member
    exact dotless name among
  have spelt : (String.intercalate "." names).toList = ['.'].intercalate (names.map String.toList) :=
    String.toList_intercalate
  rw [segments, splitDots_eq_splitOn, spelt, cut]
  simp [Function.comp_def]

/-- A text with a dot in it has the segments in front of the dot and those behind it. -/
theorem segments_append (front back : String) : segments (front ++ "." ++ back) = segments front ++ segments back := by
  have joined : (front ++ "." ++ back).toList = front.toList ++ '.' :: back.toList := by simp
  simp only [segments, splitDots_eq_splitOn, joined, List.splitOn_append_cons_self, List.map_append]

end Text

/-- The text of a chain of segments can be told from its steps. -/
theorem Text.eq_of_steps {text other : String}
    (same : (segments text).map (fun name => Step.go (.segment name)) =
      (segments other).map fun name => .go (.segment name)) : text = other := by
  have cut : segments text = segments other :=
    (List.map_inj_right fun name twin alike => Hop.segment.inj (Step.go.inj alike)).1 same
  rw [← intercalate_segments text, cut, intercalate_segments]

namespace Locator

variable {locator : Locator}

theorem steps_ofPath (kind : Kind) (dotted : String) :
    (ofPath kind dotted).steps = (Text.segments dotted).map fun name => .go (.segment name) := by
  rw [ofPath_eq, steps_ofSteps, hops, List.map_map]
  rfl

/-- A path adds a hop for each segment of its text, if no merge is in front of it. -/
theorem path_of_unmerged (unmerged : locator.isMerge = false) (dotted : String) :
    locator.path dotted = .ok (locator.extend ((Text.segments dotted).map fun name => .go (.segment name))) := by
  simp [path, objection?, unmerged, Step.fits, hops, Function.comp_def]

/-- Two paths one behind the other are the path of both texts, or are refused alike. -/
theorem path_path (locator : Locator) (front back : String) :
    (locator.path front >>= fun longer => longer.path back) = locator.path (front ++ "." ++ back) := by
  -- A path is its segments pushed one by one, and the segments of the joined text are those of both texts.
  have steps : (Call.path (front ++ "." ++ back)).steps = (Call.path front).steps ++ (Call.path back).steps := by
    simp only [Call.steps, Text.segments_append, List.map_append]
  rw [Call.path_eq_pushAll, Call.path_eq_pushAll, steps, List.foldlM_append]
  exact bind_congr fun longer => Call.path_eq_pushAll longer back

end Locator

/-- A path loses nothing of its text. Behind the steps of the locator it adds a segment more than the text has dots, no
segment holds a dot, and joined by dots they are the text. So all names without dots can be added by one path, different
texts make different chains, and two paths one behind the other are one path with a dot between the texts. -/
theorem path_loses_nothing {locator : Locator} (unmerged : locator.isMerge = false) :
    (∀ dotted, ∃ longer names, locator.path dotted = .ok longer ∧ longer.kind = locator.kind ∧
      longer.steps = locator.steps ++ names.map (fun name => .go (.segment name)) ∧
      longer.steps.length = locator.steps.length + (dotted.toList.count '.' + 1) ∧
      (∀ name ∈ names, '.' ∉ name.toList) ∧ String.intercalate "." names = dotted) ∧
    (∀ names, names ≠ [] → (∀ name ∈ names, '.' ∉ name.toList) →
      locator.path (String.intercalate "." names) =
        .ok (locator.extend (names.map fun name => .go (.segment name)))) ∧
    (∀ dotted other, locator.path dotted = locator.path other → dotted = other) ∧
    (∀ kind also dotted other,
      (Locator.ofPath kind dotted).steps = (Locator.ofPath also other).steps → dotted = other) ∧
    ∀ front back, (locator.path front >>= fun longer => longer.path back) = locator.path (front ++ "." ++ back) := by
  refine ⟨fun dotted => ?_, fun names nonempty dotless => ?_, fun dotted other same => ?_,
    fun kind also dotted other same => ?_, locator.path_path⟩
  · refine ⟨_, Text.segments dotted, locator.path_of_unmerged unmerged dotted, locator.kind_extend _,
      locator.steps_extend _, ?_, fun name => Text.dot_not_mem_of_segments, Text.intercalate_segments dotted⟩
    simp [Text.length_segments]
  · rw [locator.path_of_unmerged unmerged, Text.segments_intercalate nonempty dotless]
  · rw [locator.path_of_unmerged unmerged, locator.path_of_unmerged unmerged] at same
    have steps := congrArg Locator.steps (Except.ok.inj same)
    rw [locator.steps_extend, locator.steps_extend] at steps
    exact Text.eq_of_steps (List.append_cancel_left steps)
  · rw [Locator.steps_ofPath, Locator.steps_ofPath] at same
    exact Text.eq_of_steps same

/-- Dots at the start, at the end and side by side make empty segments, which tell the text from the one without them. -/
theorem path_loses_nothing_beside_dots :
    let locator : Locator := .ofSteps .target [.go (.item (.index 0)), .place .append]
    let names := ["", "a", "", "b", ""]
    locator.isMerge = false ∧ names ≠ [] ∧ (∀ name ∈ names, '.' ∉ name.toList) ∧
      locator.path ".a..b." = .ok (locator.extend (names.map fun name => .go (.segment name))) ∧
      locator.path ".a..b." ≠ locator.path "a.b" ∧
      (locator.path ".a" >>= fun longer => longer.path ".b.") = locator.path ".a..b." := by
  intro locator names
  have unmerged : locator.isMerge = false := rfl
  have dotless : ∀ name ∈ names, '.' ∉ name.toList := by decide
  obtain ⟨-, inverse, told, -, joined⟩ := path_loses_nothing unmerged
  refine ⟨unmerged, List.cons_ne_nil _ _, dotless, inverse names (List.cons_ne_nil _ _) dotless, fun same => ?_, ?_⟩
  · exact absurd (told _ _ same) (by decide)
  · exact joined ".a" ".b."

end DataLocator
