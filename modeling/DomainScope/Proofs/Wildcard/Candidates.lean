/-
  DomainScope.Proofs.Wildcard.Candidates
  ──────────────────────────────────────
  **THE NAMES PROBED FOR A NAME.**

  Every name that is probed for a name has, in place of its first label, a label
  that fills the room left in a name of greatest length, or as much of it as a
  label can fill.  So it is never too long, it is a name itself if what stays
  behind names, and the label source is asked for labels of that one length, or
  not at all where there is room for one character only.

  Main results
    `Plan.ofCleaned_ofLabels`   the plan for a name in normal form
    `Plan.mem_candidates`       what every name of a plan looks like
    `candidates_fill_room`      what is promised of the names probed
-/
import DomainScope.Proofs.Name.FirstLabel
import DomainScope.Proofs.Wildcard.AtOnce

namespace DomainScope

/-! ## §1. Made-up labels. -/

theorem isAlphanum_of_mem_probeChars {c : Char} (h : c ∈ probeChars) : c.isAlphanum := by
  have hall : probeChars.all Char.isAlphanum = true := by decide
  exact List.all_eq_true.mp hall c h

theorem byteLength_of_probeChars {label : Text} (h : ∀ c ∈ label, c ∈ probeChars) :
    Text.byteLength label = label.length :=
  Name.byteLength_eq_length fun c hc => .inl (isAlphanum_of_mem_probeChars (h c hc))

/-- At least one label is tried. -/
theorem sampleCount_pos (size : Nat) : 0 < sampleCount size := by
  unfold sampleCount
  split_ifs <;> omega

/-! ## §2. The plan for a row of labels. -/

namespace Plan

variable {policy : Policy} {labels : LabelSource} {first : Text} {ls : List Text}

/-- The room for another first label, in bytes. -/
def room (first : Text) (ls : List Text) : Nat :=
  253 - Text.byteLength (Name.ofLabels (first :: ls)) + Text.byteLength first

/-- The plan for a name, by the bytes that it has. -/
theorem ofCleaned_ofLabels (hname : Name.IsName policy (first :: ls)) (hls : ls ≠ []) :
    ofCleaned (Name.ofLabels (first :: ls)) =
      if room first ls = 1 then .everyCharacter (Name.ofLabels ls)
      else .samples (sampleCount (min (room first ls) 63)) (min (room first ls) 63)
        (Name.ofLabels ls) := by
  have hfirst := hname.areLabels first List.mem_cons_self
  have hcut : Text.splitFirst '.' (Name.ofLabels (first :: ls))
      = some (first, Name.ofLabels ls) :=
    Name.splitFirst_ofLabels_cons hls hfirst.not_mem_dot
  unfold ofCleaned room
  rw [hcut, Name.byteLength_ofLabels hname.areLabels, Name.byteLength_eq_length hfirst.chars]
  rfl

/-- Every plan probes a name at least. -/
theorem candidates_ne_nil (hname : Name.IsName policy (first :: ls)) (hls : ls ≠ []) :
    (ofCleaned (Name.ofLabels (first :: ls))).candidates labels ≠ [] := by
  rw [ofCleaned_ofLabels hname hls]
  split_ifs with hone
  · exact List.map_eq_nil_iff.not.mpr (by decide)
  · unfold candidates
    rw [ne_eq, List.map_eq_nil_iff, List.range_eq_nil]
    exact Nat.ne_of_gt (sampleCount_pos _)

/-- **Every name of a plan has a made-up label in front of what was behind the
first one**, and that label fills the room or is as long as a label can be. -/
theorem mem_candidates (hlabels : labels.IsExact) (hname : Name.IsName policy (first :: ls))
    (hls : ls ≠ []) {candidate : Text}
    (h : candidate ∈ (ofCleaned (Name.ofLabels (first :: ls))).candidates labels) :
    ∃ label, candidate = Name.ofLabels (label :: ls) ∧ Name.IsNameLabel label ∧
      Text.byteLength label = min (room first ls) 63 := by
  -- Either kind of plan makes labels of one length, from the 36 characters.
  have hmade : ∃ label, candidate = Name.ofLabels (label :: ls) ∧
      label.length = min (room first ls) 63 ∧ ∀ c ∈ label, c ∈ probeChars := by
    rw [ofCleaned_ofLabels hname hls] at h
    split_ifs at h with hone
    · obtain ⟨c, hc, rfl⟩ := List.mem_map.mp h
      refine ⟨[c], (Name.ofLabels_cons [c] hls).symm, ?_, ?_⟩
      · rw [hone]
        rfl
      · intro c' hc'
        rwa [List.mem_singleton.mp hc']
    · obtain ⟨call, -, rfl⟩ := List.mem_map.mp h
      exact ⟨_, (Name.ofLabels_cons _ hls).symm, (hlabels call _).1, (hlabels call _).2⟩
  obtain ⟨label, hcandidate, hlen, hchars⟩ := hmade
  rw [← byteLength_of_probeChars hchars] at hlen
  have hpos := (hname.areLabels first List.mem_cons_self).length_pos
  refine ⟨label, hcandidate, Name.isNameLabel_of_isAlphanum ?_ ?_ ?_, hlen⟩
  · rw [hlen]
    unfold room
    omega
  · rw [hlen]
    exact Nat.min_le_right _ _
  · exact fun c hc => isAlphanum_of_mem_probeChars (hchars c hc)

end Plan

/-! ## §3. What is promised of the names probed. -/

/-- What is promised of the plan for a name in normal form that has `first` in
front of its first dot and `rest` behind it. -/
structure FillsRoom (policy : Policy) (labels : LabelSource) (cleaned first rest : Text)
    (plan : Plan) : Prop where
  /-- Where there is room for one character, each of them is tried, and the
  source is not asked. -/
  everyCharacter : Text.byteLength cleaned = 253 ∧ Text.byteLength first = 1 →
    plan.requested = [] ∧ plan.candidates labels = probeChars.map fun x => x :: '.' :: rest
  /-- Otherwise the source is asked for labels of one length. -/
  samples : ¬ (Text.byteLength cleaned = 253 ∧ Text.byteLength first = 1) →
    ∃ m, m = min (253 - Text.byteLength cleaned + Text.byteLength first) 63 ∧
      max 2 (Text.byteLength first) ≤ m ∧ m ≤ 63 ∧
      plan.requested = List.replicate (sampleCount m) m ∧
      plan.candidates labels
        = (List.range (sampleCount m)).map fun call => labels call m ++ '.' :: rest
  nonempty : plan.candidates labels ≠ []
  /-- No name is too long. -/
  fits : ∀ candidate ∈ plan.candidates labels, Text.byteLength candidate ≤ 253
  /-- No room is left, unless a label cannot fill it. -/
  full : 253 - Text.byteLength cleaned + Text.byteLength first ≤ 63 →
    ∀ candidate ∈ plan.candidates labels, Text.byteLength candidate = 253
  /-- What is probed is a name if what stays behind names. -/
  valid : (∃ c ∈ rest, c.isAlpha ∨ c = '_') →
    ∀ candidate ∈ plan.candidates labels, Name.validate policy candidate = .ok ()

/-- **The plan for a row of labels fills the room.** -/
theorem fillsRoom_ofLabels {policy : Policy} {labels : LabelSource} {first : Text}
    {ls : List Text} (hlabels : labels.IsExact) (hname : Name.IsName policy (first :: ls))
    (hls : ls ≠ []) :
    FillsRoom policy labels (Name.ofLabels (first :: ls)) first (Name.ofLabels ls)
      (Plan.ofCleaned (Name.ofLabels (first :: ls))) := by
  have hfirst := hname.areLabels first List.mem_cons_self
  have hpos := hfirst.length_pos
  have hfirstLe : Text.byteLength first ≤ 63 := hfirst.length_le
  have hle : Text.byteLength (Name.ofLabels (first :: ls)) ≤ 253 := hname.length_le
  have hroom : Plan.room first ls
      = 253 - Text.byteLength (Name.ofLabels (first :: ls)) + Text.byteLength first := rfl
  have hplan := Plan.ofCleaned_ofLabels hname hls
  -- What stays behind takes the rest of the name, whatever stands in front of it.
  have hrest := Name.byteLength_ofLabels_cons first hls
  have hlength : ∀ candidate ∈ (Plan.ofCleaned (Name.ofLabels (first :: ls))).candidates labels,
      Text.byteLength candidate
        = min (Plan.room first ls) 63 + 1 + Text.byteLength (Name.ofLabels ls) := by
    intro candidate hmem
    obtain ⟨label, rfl, -, hlen⟩ := Plan.mem_candidates hlabels hname hls hmem
    rw [Name.byteLength_ofLabels_cons label hls, hlen]
  refine ⟨?_, ?_, Plan.candidates_ne_nil hname hls, ?_, ?_, ?_⟩
  · intro hone
    rw [hplan, if_pos (by omega)]
    exact ⟨rfl, rfl⟩
  · intro hmore
    rw [hplan, if_neg (by omega)]
    refine ⟨_, rfl, ?_, Nat.min_le_right _ _, rfl, rfl⟩
    omega
  · intro candidate hmem
    rw [hlength candidate hmem]
    omega
  · intro hlabel candidate hmem
    rw [hlength candidate hmem]
    omega
  · intro hnamed candidate hmem
    obtain ⟨label, rfl, hlabel, hlen⟩ := Plan.mem_candidates hlabels hname hls hmem
    refine Name.validate_ofLabels (hname.replaceFirst hls hlabel ?_ hnamed)
    rw [hlen]
    unfold Name.maxLength
    omega

/-- **The names probed for a name with a subdomain fill the room** that there is
for their first labels, and no more, whatever the list and the policy. -/
theorem candidates_fill_room {d : Decomposer} {labels : LabelSource} {name : Text} {parts : Parts}
    (hparts : d.decompose name = .ok parts) (hsub : parts.hasSub = true)
    (hlabels : labels.IsExact) :
    ∃ plan first rest, Plan.of d name = .ok (some plan) ∧
      Name.clean name = first ++ '.' :: rest ∧ '.' ∉ first ∧
      FillsRoom d.policy labels (Name.clean name) first rest plan := by
  obtain ⟨first, ls, hlabelsOf, hls, hname⟩ := Decomposer.labels_of_hasSub hparts hsub
  have hclean : Name.clean name = Name.ofLabels (first :: ls) := by
    rw [← hlabelsOf, Name.ofLabels_labels]
  refine ⟨_, first, Name.ofLabels ls, plan_of_hasSub hparts hsub, ?_, ?_, ?_⟩
  · rw [hclean, Name.ofLabels_cons first hls]
  · exact (hname.areLabels first List.mem_cons_self).not_mem_dot
  · rw [hclean]
    exact fillsRoom_ofLabels hlabels hname hls

/-- A name of greatest length, whose first label has one character. -/
def longestName : Text :=
  Name.ofLabels [['a'], List.replicate 63 'b', List.replicate 63 'c', List.replicate 63 'd',
    List.replicate 59 'e']

theorem decompose_longestName :
    Decomposer.decompose ⟨Fallback.list, {}⟩ longestName
      = .ok ⟨List.replicate 59 'e', List.replicate 63 'd',
          Name.ofLabels [['a'], List.replicate 63 'b', List.replicate 63 'c']⟩ := by
  have hls : Name.labels (Name.clean longestName)
      = [['a'], List.replicate 63 'b', List.replicate 63 'c', List.replicate 63 'd',
          List.replicate 59 'e'] := by
    decide +kernel
  rw [Decomposer.decompose_of_valid (by decide +kernel) (by decide +kernel), hls,
    Decomposer.suffixLabels_of_not_isAnswered (by decide +kernel)]
  decide +kernel

/-- There is room for one character in the longest name, so all 36 are tried,
and each of them gives a name. -/
theorem candidates_fill_room_longestName :
    let d : Decomposer := ⟨Fallback.list, {}⟩
    let parts : Parts := ⟨List.replicate 59 'e', List.replicate 63 'd',
      Name.ofLabels [['a'], List.replicate 63 'b', List.replicate 63 'c']⟩
    let rest := Name.ofLabels [List.replicate 63 'b', List.replicate 63 'c', List.replicate 63 'd',
      List.replicate 59 'e']
    d.decompose longestName = .ok parts ∧ parts.hasSub = true ∧
      (RandomLabel.source 0).IsExact ∧
      ∃ plan, Plan.of d longestName = .ok (some plan) ∧ plan.requested = [] ∧
        plan.candidates (RandomLabel.source 0) = (probeChars.map fun x => x :: '.' :: rest) ∧
        ∀ candidate ∈ plan.candidates (RandomLabel.source 0),
          Name.validate {} candidate = .ok () := by
  intro d parts rest
  have hexact := RandomLabel.isExact_source 0
  refine ⟨decompose_longestName, rfl, hexact, ?_⟩
  obtain ⟨plan, first, rest', hplan, hclean, hfirst, hfills⟩ :=
    candidates_fill_room decompose_longestName rfl hexact
  have hcut : Text.splitFirst '.' (Name.clean longestName) = some (['a'], rest) := by
    decide +kernel
  have hcut' := Text.splitFirst_eq_some_iff.mpr ⟨hclean, hfirst⟩
  rw [hcut] at hcut'
  cases hcut'
  have hall := hfills.everyCharacter (by decide +kernel)
  exact ⟨plan, hplan, hall.1, hall.2, hfills.valid ⟨'b', by decide +kernel, .inl (by decide)⟩⟩

end DomainScope
