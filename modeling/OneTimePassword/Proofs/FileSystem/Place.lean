/-
Module: OneTimePassword.Proofs.FileSystem.Place
Purpose: Where paths lead, and what a call on a path finds and leaves there. A path is followed along
  directories and links only, so a change that keeps these keeps every way through the tree.
Main exports: FileSystem.KeepsWays, FileSystem.locate_of_keepsWays, FileSystem.place,
  FileSystem.IsRemovable, FileSystem.createExclusive_eq_ok_iff, FileSystem.unlink_eq_ok_iff,
  FileSystem.rename_eq_ok_iff, FileSystem.IsName
-/
import OneTimePassword.FileSystem.Calls

namespace OneTimePassword.FileSystem

variable {fs fs' : FileSystem} {location other here there : Location} {node : Node}
  {path name : String} {names rest : List String} {links : Nat} {spot : Spot}

/-! ### Nodes -/

@[simp] theorem lookup_root (fs : FileSystem) : fs.lookup [] = some .directory := rfl

theorem lookup_of_ne_nil (h : location ≠ []) :
    fs.lookup location = fs.entries.lookup location := by
  cases location with
  | nil => exact absurd rfl h
  | cons => rfl

theorem lookup_erase_self (h : location ≠ []) : (fs.erase location).lookup location = none := by
  rw [lookup_of_ne_nil h, List.lookup_eq_none_iff]
  intro entry member
  have hne : entry.1 ≠ location := by simpa using (List.mem_filter.mp member).2
  simpa using hne.symm

theorem lookup_filter_ne (entries : List (Location × Node)) (h : other ≠ location) :
    (entries.filter (·.1 != location)).lookup other = entries.lookup other := by
  induction entries with
  | nil => rfl
  | cons entry entries ih =>
      rcases entry with ⟨place, node⟩
      by_cases hplace : place = location
      · subst place
        have hne : (other == location) = false := by simpa using h
        simp [List.lookup_cons, hne, ih]
      · simp [List.lookup_cons, hplace, ih]

theorem lookup_erase_of_ne (h : other ≠ location) :
    (fs.erase location).lookup other = fs.lookup other := by
  cases other with
  | nil => rfl
  | cons => exact lookup_filter_ne fs.entries h

theorem lookup_insert_self (h : location ≠ []) :
    (fs.insert location node).lookup location = some node := by
  rw [lookup_of_ne_nil h]
  simp [insert]

theorem lookup_insert_of_ne (h : other ≠ location) :
    (fs.insert location node).lookup other = fs.lookup other := by
  have hne : (other == location) = false := by simpa using h
  cases other with
  | nil => rfl
  | cons name names =>
      have := lookup_filter_ne fs.entries h
      simpa [insert, erase, lookup, List.lookup_cons, hne] using this

/-- Where nothing is, nothing is taken away. -/
theorem erase_eq_self (hne : location ≠ []) (h : fs.lookup location = none) :
    fs.erase location = fs := by
  rw [lookup_of_ne_nil hne, List.lookup_eq_none_iff] at h
  have hall : fs.entries.filter (·.1 != location) = fs.entries := by
    rw [List.filter_eq_self]
    intro entry member
    have hentry : location ≠ entry.1 := by simpa using h entry member
    simpa using hentry.symm
  simp [erase, hall]

theorem erase_insert : (fs.insert location node).erase location = fs.erase location := by
  simp [insert, erase]

theorem insert_insert (earlier : Node) :
    (fs.insert location earlier).insert location node = fs.insert location node := by
  simp [insert, erase]

theorem erase_insert_of_lookup_eq_none (hne : location ≠ []) (h : fs.lookup location = none) :
    (fs.insert location node).erase location = fs := by
  rw [erase_insert, erase_eq_self hne h]

theorem child_eq_ok_iff {found : Option Node} :
    fs.child here name = .ok found ↔
      (Text.utf8 name).length ≤ maxNameLength ∧ fs.lookup (here ++ [name]) = found := by
  unfold child
  split
  · simp; omega
  · simp; omega

@[simp] theorem Spot.location_ne_nil (spot : Spot) : spot.location ≠ [] := by
  simp [Spot.location]

theorem nodeAt_eq_ok_iff {found : Option Node} :
    fs.nodeAt spot = .ok found ↔
      (Text.utf8 spot.name).length ≤ maxNameLength ∧ fs.lookup spot.location = found :=
  child_eq_ok_iff

/-! ### Ways -/

/-- Every directory and every link is still where it was. -/
def KeepsWays (fs fs' : FileSystem) : Prop :=
  ∀ location node, fs.lookup location = some node → (∀ mode content, node ≠ .file mode content) →
    fs'.lookup location = some node

/-- A node put where no way leads on leaves every way in place. -/
theorem keepsWays_insert
    (h : ∀ found, fs.lookup location = some found → ∃ mode content, found = .file mode content) :
    KeepsWays fs (fs.insert location node) := by
  intro other found hfound hway
  by_cases hother : other = location
  · subst hother
    obtain ⟨mode, content, rfl⟩ := h found hfound
    exact absurd rfl (hway mode content)
  · rwa [lookup_insert_of_ne hother]

/-- A file keeps no way open. -/
theorem keepsWays_insert_file (mode : Nat) (content : Bytes) :
    KeepsWays (fs.insert location (.file mode content)) (fs.erase location) := by
  intro other found hfound hway
  by_cases hother : other = location
  · subst hother
    cases other with
    | nil => exact hfound
    | cons name names =>
        rw [lookup_insert_self (by simp)] at hfound
        exact absurd (Option.some.inj hfound).symm (hway mode content)
  · rw [lookup_insert_of_ne hother] at hfound
    rwa [lookup_erase_of_ne hother]

theorem keepsWays_erase (node : Node) : KeepsWays (fs.erase location) (fs.insert location node) := by
  intro other found hfound _
  by_cases hother : other = location
  · subst hother
    cases other with
    | nil => exact hfound
    | cons name names => simp [lookup_erase_self] at hfound
  · rw [lookup_erase_of_ne hother] at hfound
    rwa [lookup_insert_of_ne hother]

theorem walk_of_keepsWays (hkeeps : KeepsWays fs fs') (h : fs.walk links here names = .ok there) :
    fs'.walk links here names = .ok there := by
  fun_induction fs.walk links here names with
  | case1 => simpa [walk] using h
  | case2 => simp_all [walk]
  | case3 => simp_all [walk]
  | case4 => simp at h
  | case5 => simp at h
  | case6 => simp at h
  | case7 links here name rest hdot hdots hchild ih =>
      have ⟨hlength, hfound⟩ := child_eq_ok_iff.mp hchild
      have hchild' := child_eq_ok_iff.mpr ⟨hlength, hkeeps _ _ hfound (by simp)⟩
      rw [walk, if_neg hdot, if_neg hdots, hchild']
      exact ih h
  | case8 => simp at h
  | case9 here name rest hdot hdots target hchild links ih =>
      have ⟨hlength, hfound⟩ := child_eq_ok_iff.mp hchild
      have hchild' := child_eq_ok_iff.mpr ⟨hlength, hkeeps _ _ hfound (by simp)⟩
      rw [walk, if_neg hdot, if_neg hdots, hchild']
      exact ih h

/-- A way that leads on to an end leads to where it goes on from. -/
theorem exists_walk_of_walk_append (h : fs.walk links here (names ++ rest) = .ok there) :
    ∃ middle, fs.walk links here names = .ok middle := by
  fun_induction fs.walk links here names with
  | case1 links here => exact ⟨here, rfl⟩
  | case2 links here rest' ih => exact ih (by simpa [walk] using h)
  | case3 links here rest' hdot ih => exact ih (by simpa [walk] using h)
  | case4 links here name rest' hdot hdots e hchild => simp [walk, hdot, hdots, hchild] at h
  | case5 links here name rest' hdot hdots hchild => simp [walk, hdot, hdots, hchild] at h
  | case6 links here name rest' hdot hdots mode content hchild =>
      simp [walk, hdot, hdots, hchild] at h
  | case7 links here name rest' hdot hdots hchild ih =>
      exact ih (by simpa [walk, hdot, hdots, hchild] using h)
  | case8 here name rest' hdot hdots target hchild => simp [walk, hdot, hdots, hchild] at h
  | case9 here name rest' hdot hdots target hchild links ih =>
      exact ih (by simpa [walk, hdot, hdots, hchild] using h)

/-- Every place on the way down to a place is a directory, the place itself as well. -/
def IsReachable (fs : FileSystem) (location : Location) : Prop :=
  ∀ above, above <+: location → fs.lookup above = some .directory

theorem IsReachable.lookup (h : fs.IsReachable location) : fs.lookup location = some .directory :=
  h location (List.prefix_rfl)

theorem isReachable_root : fs.IsReachable [] := by
  intro above habove
  rw [List.prefix_nil.mp habove, lookup_root]

theorem IsReachable.dropLast (h : fs.IsReachable location) : fs.IsReachable location.dropLast :=
  fun above habove => h above (habove.trans (List.dropLast_prefix location))

theorem IsReachable.append (h : fs.IsReachable here)
    (hname : fs.lookup (here ++ [name]) = some .directory) : fs.IsReachable (here ++ [name]) := by
  intro above habove
  rcases List.prefix_concat_iff.mp habove with rfl | hbelow
  · exact hname
  · exact h above hbelow

theorem IsReachable.linkStart (h : fs.IsReachable here) (target : String) :
    fs.IsReachable (linkStart here target) := by
  unfold FileSystem.linkStart
  split
  · exact isReachable_root
  · exact h

/-- All ways lead to directories. -/
theorem isReachable_walk (hhere : fs.IsReachable here)
    (h : fs.walk links here names = .ok there) : fs.IsReachable there := by
  fun_induction fs.walk links here names with
  | case1 => exact Except.ok.inj h ▸ hhere
  | case2 links here rest ih => exact ih hhere h
  | case3 links here rest hdot ih => exact ih hhere.dropLast h
  | case4 => simp at h
  | case5 => simp at h
  | case6 => simp at h
  | case7 links here name rest hdot hdots hchild ih =>
      exact ih (hhere.append (child_eq_ok_iff.mp hchild).2) h
  | case8 => simp at h
  | case9 here name rest hdot hdots target hchild links ih => exact ih (hhere.linkStart target) h

/-- What a path comes to once its directory is reached. -/
def spotOf (path last : String) (directory : Location) : Option Spot :=
  if last = "." ∨ last = ".." then none
  else some ⟨directory, last, path.toList.getLast? = some '/'⟩

theorem locate_of_namesOf_eq_nil (hpath : path ≠ "")
    (hlength : (Text.utf8 path).length ≤ maxPathLength) (hnames : namesOf path = []) :
    fs.locate path = .ok none := by
  rw [locate, if_neg hpath, if_neg (by omega)]
  simp [hnames]

theorem locate_of_namesOf_eq_concat {last : String} (hpath : path ≠ "")
    (hlength : (Text.utf8 path).length ≤ maxPathLength) (hnames : namesOf path = names ++ [last]) :
    fs.locate path = (fs.walk maxLinks [] names).map (spotOf path last) := by
  rw [locate, if_neg hpath, if_neg (by omega)]
  simp only [hnames, List.getLast?_concat, List.dropLast_concat]
  cases fs.walk maxLinks [] names with
  | error => rfl
  | ok directory =>
      by_cases hdots : last = "." ∨ last = ".."
      · simp [bind, Except.bind, Except.map, pure, Except.pure, spotOf, hdots]
      · simp [bind, Except.bind, Except.map, pure, Except.pure, spotOf, hdots]

/-- All that has to be so for a path to lead somewhere. -/
theorem locate_eq_ok_iff {found : Option Spot} :
    fs.locate path = .ok found ↔
      path ≠ "" ∧ (Text.utf8 path).length ≤ maxPathLength ∧
        (namesOf path = [] ∧ found = none ∨
          ∃ names last directory, namesOf path = names ++ [last] ∧
            fs.walk maxLinks [] names = .ok directory ∧ found = spotOf path last directory) := by
  by_cases hpath : path = ""
  · simp [locate, hpath]
  by_cases hlength : (Text.utf8 path).length ≤ maxPathLength
  · simp only [hpath, hlength, ne_eq, not_false_eq_true, true_and]
    cases hlast : (namesOf path).getLast? with
    | none =>
        have hnames := List.getLast?_eq_none_iff.mp hlast
        rw [locate_of_namesOf_eq_nil hpath hlength hnames, hnames]
        simpa using eq_comm
    | some last =>
        obtain ⟨names, hnames⟩ := List.getLast?_eq_some_iff.mp hlast
        rw [locate_of_namesOf_eq_concat hpath hlength hnames, hnames]
        constructor
        · intro h
          cases hwalk : fs.walk maxLinks [] names with
          | error => simp [hwalk, Except.map] at h
          | ok directory =>
              rw [hwalk] at h
              exact .inr ⟨names, last, directory, rfl, hwalk, (Except.ok.inj h).symm⟩
        · rintro (⟨hnil, -⟩ | ⟨names', last', directory, hsplit, hwalk, rfl⟩)
          · simp at hnil
          · obtain ⟨rfl, hlast'⟩ := List.append_inj' hsplit rfl
            obtain rfl := List.singleton_inj.mp hlast'
            rw [hwalk]
            rfl
  · rw [locate, if_neg hpath, if_pos (by omega)]
    simp [hlength]

theorem locate_of_keepsWays {found : Option Spot} (hkeeps : KeepsWays fs fs')
    (h : fs.locate path = .ok found) : fs'.locate path = .ok found := by
  rw [locate_eq_ok_iff] at h ⊢
  rcases h with ⟨hpath, hlength, hroot | ⟨names, last, directory, hnames, hwalk, hfound⟩⟩
  · exact ⟨hpath, hlength, .inl hroot⟩
  · exact ⟨hpath, hlength,
      .inr ⟨names, last, directory, hnames, walk_of_keepsWays hkeeps hwalk, hfound⟩⟩

/-! ### Places -/

/-- The place that a path names. A link is followed where the path goes on behind it, be it only with
a slash, but not in the place of the last name. -/
def place (fs : FileSystem) (path : String) : Except Errno Location :=
  if path = "" then .error .notFound
  else if (Text.utf8 path).length > maxPathLength then .error .nameTooLong
  else
    match (namesOf path).getLast? with
    | none => .ok []
    | some last =>
        if last = "." ∨ last = ".." ∨ path.toList.getLast? = some '/' then
          fs.walk maxLinks [] (namesOf path)
        else (fs.walk maxLinks [] (namesOf path).dropLast).map (· ++ [last])

theorem place_of_keepsWays (hkeeps : KeepsWays fs fs') (h : fs.place path = .ok location) :
    fs'.place path = .ok location := by
  unfold place at h ⊢
  split at h
  · simp at h
  split at h
  · simp at h
  rename_i hpath hlength
  rw [if_neg hpath, if_neg hlength]
  cases hlast : (namesOf path).getLast? with
  | none => simpa [hlast] using h
  | some last =>
      simp only [hlast] at h ⊢
      split at h
      · rename_i hname
        rw [if_pos hname]
        exact walk_of_keepsWays hkeeps h
      · rename_i hname
        rw [if_neg hname]
        cases hwalk : fs.walk maxLinks [] (namesOf path).dropLast with
        | error => simp [hwalk, Except.map] at h
        | ok directory => rwa [walk_of_keepsWays hkeeps hwalk, ← hwalk]

theorem spotOf_eq_some_iff {last : String} {directory : Location} :
    spotOf path last directory = some spot ↔
      last ≠ "." ∧ last ≠ ".." ∧ spot = ⟨directory, last, path.toList.getLast? = some '/'⟩ := by
  unfold spotOf
  split
  · simp; grind
  · simp; grind

/-- A spot that no slash follows is the place of its path. -/
theorem place_of_locate (h : fs.locate path = .ok (some spot)) (hslash : spot.endsInSlash = false) :
    fs.place path = .ok spot.location := by
  obtain ⟨hpath, hlength, ⟨-, hspot⟩ | ⟨names, last, directory, hnames, hwalk, hspot⟩⟩ :=
    locate_eq_ok_iff.mp h
  · simp at hspot
  · obtain ⟨hdot, hdots, rfl⟩ := spotOf_eq_some_iff.mp hspot.symm
    have hend : path.toList.getLast? ≠ some '/' := by simpa using hslash
    rw [place, if_neg hpath, if_neg (by omega)]
    simp [hnames, hdot, hdots, hend, hwalk, Except.map, Spot.location]

/-- A path names its spot unless it names a directory. -/
theorem locate_of_place (h : fs.place path = .ok location)
    (hnode : fs.lookup location ≠ some .directory) :
    ∃ spot, fs.locate path = .ok (some spot) ∧ spot.endsInSlash = false ∧
      spot.location = location := by
  unfold place at h
  split at h
  · simp at h
  split at h
  · simp at h
  rename_i hpath hlength
  cases hlast : (namesOf path).getLast? with
  | none =>
      simp only [hlast, Except.ok.injEq] at h
      exact absurd (h ▸ lookup_root fs) hnode
  | some last =>
      obtain ⟨names, hnames⟩ := List.getLast?_eq_some_iff.mp hlast
      simp only [hlast] at h
      split at h
      · exact absurd (isReachable_walk isReachable_root h).lookup hnode
      · rename_i hname
        rw [hnames, List.dropLast_concat] at h
        cases hwalk : fs.walk maxLinks [] names with
        | error => simp [hwalk, Except.map] at h
        | ok directory =>
            simp only [hwalk, Except.map, Except.ok.injEq] at h
            refine ⟨⟨directory, last, false⟩, ?_, rfl, h⟩
            rw [locate_of_namesOf_eq_concat hpath (by omega) hnames, hwalk]
            simp [Except.map, spotOf]
            grind

/-- A file or a link is at the place. -/
def IsRemovable (fs : FileSystem) (location : Location) : Prop :=
  ∃ node, fs.lookup location = some node ∧ node ≠ .directory

theorem IsRemovable.ne_nil (h : fs.IsRemovable location) : location ≠ [] := by
  intro hroot
  obtain ⟨node, hnode, hkind⟩ := h
  rw [hroot, lookup_root] at hnode
  exact hkind (Option.some.inj hnode).symm

/-! ### Names -/

/-- What is put behind a text without a slash of its own belongs to the last piece. -/
theorem exists_splitOn_slash (l : List Char) :
    ∃ pieces last, (last = [] ↔ l = [] ∨ l.getLast? = some '/') ∧
      ∀ tail, '/' ∉ tail → (l ++ tail).splitOn '/' = pieces ++ [last ++ tail] := by
  by_cases hslash : '/' ∈ l
  · -- the piece behind the last slash, which is the first one from the right
    obtain ⟨after, before, hreverse, hafter⟩ :=
      List.eq_append_cons_of_mem (List.mem_reverse.mpr hslash)
    have hl : l = before.reverse ++ '/' :: after.reverse := by
      have := congrArg List.reverse hreverse
      simpa using this
    have hfree : '/' ∉ after.reverse := by simpa using hafter
    refine ⟨before.reverse.splitOn '/', after.reverse, ?_, ?_⟩
    · subst hl
      cases after with
      | nil => simp
      | cons c after =>
          have hc : c ≠ '/' := fun h => hafter (h ▸ List.mem_cons_self)
          simp [List.getLast?_cons, hc]
    · intro tail htail
      have hnone : '/' ∉ after.reverse ++ tail := by
        simpa using ⟨by simpa using hfree, htail⟩
      rw [hl, List.append_assoc, List.cons_append, List.splitOn_append_cons_self,
        List.splitOn_eq_singleton hnone]
  · refine ⟨[], l, ?_, ?_⟩
    · constructor
      · exact .inl
      · rintro (hnil | hlast)
        · exact hnil
        · exact absurd (List.mem_of_getLast? hlast) hslash
    · intro tail htail
      have hnone : '/' ∉ l ++ tail := by simp [hslash, htail]
      rw [List.splitOn_eq_singleton hnone, List.nil_append]

/-- An ending without a slash goes to the last name of a path, or is a name by itself where the path
has none or ends in a slash. -/
theorem exists_namesOf_append (path ending : String) (hending : ending ≠ "")
    (hslash : '/' ∉ ending.toList) :
    ∃ names last, namesOf (path ++ ending) = names ++ [last ++ ending] ∧
      (last = "" ↔ path = "" ∨ path.toList.getLast? = some '/') ∧
      namesOf path = if last = "" then names else names ++ [last] := by
  obtain ⟨pieces, last, hempty, hsplit⟩ := exists_splitOn_slash path.toList
  have hnonempty : ending.toList ≠ [] := by simpa using hending
  have hpath : path.toList.splitOn '/' = pieces ++ [last] := by
    simpa using hsplit [] List.not_mem_nil
  refine ⟨(pieces.filter (· ≠ [])).map String.ofList, String.ofList last, ?_, ?_, ?_⟩
  · simp only [namesOf, String.toList_append, hsplit ending.toList hslash, List.filter_append,
      List.map_append]
    simp [hnonempty]
  · simpa using hempty
  · simp only [namesOf, hpath, List.filter_append, List.map_append]
    by_cases hlast : last = []
    · simp [hlast]
    · simp [hlast]

theorem length_utf8_append (s t : String) :
    (Text.utf8 (s ++ t)).length = (Text.utf8 s).length + (Text.utf8 t).length := by
  simp [Text.utf8]

/-! ### Calls -/

/-- A file is created at a spot where nothing is. -/
theorem createExclusive_eq_ok_iff {mode : Nat} :
    fs.createExclusive path mode = .ok (fs', location) ↔
      ∃ spot, fs.locate path = .ok (some spot) ∧ spot.endsInSlash = false ∧
        fs.nodeAt spot = .ok none ∧ location = spot.location ∧
        fs' = fs.insert spot.location (.file mode []) := by
  unfold createExclusive
  cases hlocate : fs.locate path with
  | error => simp [bind, Except.bind]
  | ok found =>
      cases found with
      | none => simp [bind, Except.bind, throw, throwThe, MonadExceptOf.throw]
      | some spot =>
          cases hslash : spot.endsInSlash with
          | true => simp [bind, Except.bind, throw, throwThe, MonadExceptOf.throw, hslash]
          | false =>
              cases hnode : fs.nodeAt spot with
              | error => simp [bind, Except.bind, hslash, hnode]
              | ok occupant =>
                  cases occupant with
                  | none =>
                      simp [bind, Except.bind, pure, Except.pure, hslash, hnode]
                      grind
                  | some =>
                      simp [bind, Except.bind, throw, throwThe, MonadExceptOf.throw, hslash, hnode]

/-- A file or a link is removed from its spot. -/
theorem unlink_eq_ok_iff :
    fs.unlink path = .ok fs' ↔
      ∃ spot node, fs.locate path = .ok (some spot) ∧ spot.endsInSlash = false ∧
        fs.nodeAt spot = .ok (some node) ∧ node ≠ .directory ∧ fs' = fs.erase spot.location := by
  unfold unlink
  cases hlocate : fs.locate path with
  | error => simp [bind, Except.bind]
  | ok found =>
      cases found with
      | none => simp [bind, Except.bind, throw, throwThe, MonadExceptOf.throw]
      | some spot =>
          cases hnode : fs.nodeAt spot with
          | error => simp [bind, Except.bind, hnode]
          | ok occupant =>
              rcases occupant with _ | node
              · simp [bind, Except.bind, throw, throwThe, MonadExceptOf.throw, hnode]
              · cases node <;> cases hslash : spot.endsInSlash <;>
                  simp [bind, Except.bind, pure, Except.pure, throw, throwThe, MonadExceptOf.throw,
                    hnode, hslash] <;> grind

/-- A node is moved to a spot in place of a file or link, or where nothing is. -/
theorem rename_eq_ok_iff {target : String} :
    fs.rename path target = .ok fs' ↔
      ∃ source spot node replaced, fs.locate path = .ok (some source) ∧
        fs.locate target = .ok (some spot) ∧ fs.nodeAt source = .ok (some node) ∧
        fs.nodeAt spot = .ok replaced ∧ source.endsInSlash = false ∧ spot.endsInSlash = false ∧
        replaced ≠ some .directory ∧
        fs' = (fs.erase source.location).insert spot.location node := by
  unfold rename
  cases hsource : fs.locate path with
  | error => simp [bind, Except.bind]
  | ok source =>
      cases htarget : fs.locate target with
      | error => simp [bind, Except.bind]
      | ok spot =>
          rcases source with _ | source <;> rcases spot with _ | spot <;>
            try simp [bind, Except.bind, throw, throwThe, MonadExceptOf.throw]
          cases hnode : fs.nodeAt source with
          | error => simp
          | ok node =>
              rcases node with _ | node
              · simp
              · cases hreplaced : fs.nodeAt spot with
                | error => simp
                | ok replaced =>
                    cases source.endsInSlash with
                    | true => simp
                    | false =>
                        cases spot.endsInSlash with
                        | true => simp
                        | false =>
                            by_cases hkind : replaced = some .directory
                            · simp [hkind]
                            · simp [hkind, pure, Except.pure]
                              grind

/-! ### Names -/

/-- A name that a node below the root can have. -/
def IsName (name : String) : Prop :=
  namesOf name = [name] ∧ name ≠ "." ∧ name ≠ ".." ∧ name.toList.getLast? ≠ some '/' ∧
    (Text.utf8 name).length ≤ maxNameLength

instance (name : String) : Decidable (IsName name) :=
  inferInstanceAs (Decidable (namesOf name = [name] ∧ name ≠ "." ∧ name ≠ ".." ∧
    name.toList.getLast? ≠ some '/' ∧ (Text.utf8 name).length ≤ maxNameLength))

/-- A name leads to its spot below the root, whatever is there. -/
theorem locate_of_isName (fs : FileSystem) (h : IsName name) :
    fs.locate name = .ok (some ⟨[], name, false⟩) := by
  obtain ⟨hnames, hdot, hdots, hend, hlength⟩ := h
  have hpath : name ≠ "" := by
    rintro rfl
    simp [namesOf] at hnames
  have hconcat : namesOf name = [] ++ [name] := hnames
  have hshort : (Text.utf8 name).length ≤ maxPathLength := Nat.le_trans hlength (by decide)
  rw [locate_of_namesOf_eq_concat hpath hshort hconcat, walk]
  simp [Except.map, spotOf, hdot, hdots, hend]

theorem nodeAt_of_isName (fs : FileSystem) (h : IsName name) :
    fs.nodeAt ⟨[], name, false⟩ = .ok (fs.lookup [name]) :=
  nodeAt_eq_ok_iff.mpr ⟨h.2.2.2.2, rfl⟩

theorem createExclusive_of_isName (fs : FileSystem) (h : IsName name) (mode : Nat) :
    fs.createExclusive name mode =
      match fs.lookup [name] with
      | some _ => .error .exists
      | none => .ok (fs.insert [name] (.file mode []), [name]) := by
  simp only [createExclusive, locate_of_isName fs h, nodeAt_of_isName fs h, bind, Except.bind]
  cases fs.lookup [name] with
  | none => rfl
  | some node => rfl

theorem rename_of_isName {target : String} (fs : FileSystem) (h : IsName name)
    (htarget : IsName target) :
    fs.rename name target =
      match fs.lookup [name] with
      | none => .error .notFound
      | some node =>
          if fs.lookup [target] = some .directory then .error .isDirectory
          else .ok ((fs.erase [name]).insert [target] node) := by
  simp only [rename, locate_of_isName fs h, locate_of_isName fs htarget, nodeAt_of_isName fs h,
    nodeAt_of_isName fs htarget, bind, Except.bind]
  cases fs.lookup [name] with
  | none => rfl
  | some node => by_cases hkind : fs.lookup [target] = some .directory <;> simp [hkind] <;> rfl

theorem unlink_of_isName (fs : FileSystem) (h : IsName name) :
    fs.unlink name =
      match fs.lookup [name] with
      | none => .error .notFound
      | some .directory => .error .isDirectory
      | some _ => .ok (fs.erase [name]) := by
  simp only [unlink, locate_of_isName fs h, nodeAt_of_isName fs h, bind, Except.bind]
  rcases fs.lookup [name] with _ | node
  · rfl
  · cases node with
    | file => rfl
    | directory => rfl
    | link => rfl

end OneTimePassword.FileSystem
