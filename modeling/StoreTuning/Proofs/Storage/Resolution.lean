import StoreTuning.Storage.FileSystem

/-!
# What paths lead to

Where the steps of a path lead, as a relation that says nothing of how it is found out
(`FileSystem.Leads`): a step stays, goes up, enters a directory, or takes the steps of a link
instead. Following the steps ends at a directory exactly when they lead to it through no more links
than are allowed (`FileSystem.arrival?_walk_iff`). So a store is present exactly when the path of
its directory resolves to one with an entry (`FileSystem.eq_true_iff_holdsData`).
-/

namespace StoreTuning

namespace FileSystem

variable {fs : FileSystem} {links k : Nat} {place steps : List String} {name : String}
  {endsOpen : Bool} {d : Directory}

/-- The entry with a name in the directory at a place. -/
def child? (fs : FileSystem) (place : List String) (name : String) : Option Node :=
  (Directory.at? fs.root place).bind fun d => d.lookup name

/-- Whether a step is a name, which looks for an entry. -/
def IsName (name : String) : Prop :=
  name ≠ "." ∧ name ≠ ".."

/-- Steps from a place lead to a directory through a number of links. -/
inductive Leads (fs : FileSystem) : List String → List String → Nat → Directory → Prop where
  /-- Without steps one is there. -/
  | here {place : List String} {d : Directory} (h : Directory.at? fs.root place = some d) :
    Leads fs place [] 0 d
  /-- A step may stay in place. -/
  | stay {place steps : List String} {k : Nat} {d : Directory} (h : Leads fs place steps k d) :
    Leads fs place ("." :: steps) k d
  /-- A step may go up; above the root is the root. -/
  | up {place steps : List String} {k : Nat} {d : Directory}
    (h : Leads fs place.dropLast steps k d) : Leads fs place (".." :: steps) k d
  /-- A name may enter a directory. -/
  | enter {place steps : List String} {name : String} {sub : Directory} {k : Nat} {d : Directory}
    (hname : IsName name) (hsize : name.utf8ByteSize ≤ nameLimit)
    (hentry : fs.child? place name = some (.directory sub))
    (h : Leads fs (place ++ [name]) steps k d) : Leads fs place (name :: steps) k d
  /-- The steps of a link are taken from the directory that the link is in, or from the root. -/
  | link {place steps : List String} {name target : String} {k : Nat} {d : Directory}
    (hname : IsName name) (hsize : name.utf8ByteSize ≤ nameLimit)
    (hentry : fs.child? place name = some (.link target))
    (h : Leads fs (if (Route.ofText target).isAbsolute then [] else place)
      ((Route.ofText target).steps ++ steps) k d) : Leads fs place (name :: steps) (k + 1) d

theorem leads_nil_iff : fs.Leads place [] k d ↔ k = 0 ∧ Directory.at? fs.root place = some d := by
  constructor
  · rintro ⟨h⟩
    exact ⟨rfl, h⟩
  · rintro ⟨rfl, h⟩
    exact .here h

theorem leads_stay_iff : fs.Leads place ("." :: steps) k d ↔ fs.Leads place steps k d := by
  constructor
  · generalize hsteps : "." :: steps = all
    intro h
    cases h with
    | here => cases hsteps
    | stay h =>
      cases hsteps
      exact h
    | up => exact absurd (List.cons.inj hsteps).1 (by decide)
    | enter hname => exact absurd (List.cons.inj hsteps).1.symm hname.1
    | link hname => exact absurd (List.cons.inj hsteps).1.symm hname.1
  · exact .stay

theorem leads_up_iff : fs.Leads place (".." :: steps) k d ↔ fs.Leads place.dropLast steps k d := by
  constructor
  · generalize hsteps : ".." :: steps = all
    intro h
    cases h with
    | here => cases hsteps
    | stay => exact absurd (List.cons.inj hsteps).1 (by decide)
    | up h =>
      cases hsteps
      exact h
    | enter hname => exact absurd (List.cons.inj hsteps).1.symm hname.2
    | link hname => exact absurd (List.cons.inj hsteps).1.symm hname.2
  · exact .up

/-- A name leads on by what is there under it. -/
theorem leads_name_iff (hname : IsName name) :
    fs.Leads place (name :: steps) k d ↔
      name.utf8ByteSize ≤ nameLimit ∧
        match fs.child? place name with
        | some (.directory _) => fs.Leads (place ++ [name]) steps k d
        | some (.link target) => ∃ k', k = k' + 1 ∧
          fs.Leads (if (Route.ofText target).isAbsolute then [] else place)
            ((Route.ofText target).steps ++ steps) k' d
        | _ => False := by
  constructor
  · intro h
    cases h with
    | stay => exact absurd rfl hname.1
    | up => exact absurd rfl hname.2
    | enter _ hsize hentry h =>
      rw [hentry]
      exact ⟨hsize, h⟩
    | link _ hsize hentry h =>
      rw [hentry]
      exact ⟨hsize, _, rfl, h⟩
  · rintro ⟨hsize, h⟩
    split at h
    · rename_i hentry
      exact .enter hname hsize hentry h
    · rename_i hentry
      obtain ⟨k', rfl, h⟩ := h
      exact .link hname hsize hentry h
    · exact h.elim

/-- What is looked up under a name where one is. -/
theorem lookup_eq_child? (fs : FileSystem) (place : List String) (name : String) :
    ((Directory.at? fs.root place).getD []).lookup name = fs.child? place name := by
  unfold child?
  cases Directory.at? fs.root place <;> rfl

/-- The last step may be a free name. -/
theorem walk_vacant {followLast : Bool} (hname : IsName name)
    (hsize : name.utf8ByteSize ≤ nameLimit) (hentry : fs.child? place name = none) :
    fs.walk followLast links place endsOpen [name] = .ok (.vacant place name endsOpen) := by
  rw [walk.eq_4 _ _ _ _ _ _ _ hname.1 hname.2, if_neg (Nat.not_lt.2 hsize), lookup_eq_child?,
    hentry]
  rfl

/-- A name may enter a directory. -/
theorem walk_enter {followLast : Bool} {sub : Directory} (hname : IsName name)
    (hsize : name.utf8ByteSize ≤ nameLimit)
    (hentry : fs.child? place name = some (.directory sub)) :
    fs.walk followLast links place endsOpen (name :: steps) =
      fs.walk followLast links (place ++ [name]) endsOpen steps := by
  rw [walk.eq_4 _ _ _ _ _ _ _ hname.1 hname.2, if_neg (Nat.not_lt.2 hsize), lookup_eq_child?,
    hentry]

/-- The directory that following steps came to. -/
def arrival? : Except Fault Destination → Option Directory
  | .ok (.node _ (.directory d) _) => some d
  | _ => none

/-- Following steps to the end comes to a directory exactly when they lead to it, through no more
links than are allowed. -/
theorem arrival?_walk_iff :
    arrival? (fs.walk true links place endsOpen steps) = some d ↔
      ∃ k ≤ links, fs.Leads place steps k d := by
  -- A name that is too long or free, or that of a file, leads to no directory.
  have refused {place names : List String} {name : String} (hname : IsName name) (links : Nat)
      (h : name.utf8ByteSize ≤ nameLimit →
        ∀ n ∈ fs.child? place name, ∃ content, n = .file content) :
      (none = some d) ↔ ∃ k ≤ links, fs.Leads place (name :: names) k d := by
    refine ⟨nofun, fun ⟨k, _, hk⟩ => ?_⟩
    obtain ⟨hsize, hentry⟩ := (leads_name_iff hname).1 hk
    split at hentry
    · rename_i hn
      obtain ⟨content, hfile⟩ := h hsize _ hn
      cases hfile
    · rename_i hn
      obtain ⟨content, hfile⟩ := h hsize _ hn
      cases hfile
    · exact hentry.elim
  fun_induction fs.walk true links place endsOpen steps with
  | case1 links place endsOpen d' hd =>
    simp only [arrival?, leads_nil_iff, hd]
    exact ⟨fun h => ⟨0, Nat.zero_le links, rfl, h⟩, fun ⟨_, _, _, h⟩ => h⟩
  | case2 links place endsOpen hnone => simp [arrival?, leads_nil_iff, hnone]
  | case3 links place endsOpen names ih => simpa only [leads_stay_iff] using ih
  | case4 links place endsOpen names ih => simpa only [leads_up_iff] using ih
  | case5 links place endsOpen name names hdot hup hsize =>
    exact refused ⟨hdot, hup⟩ links fun h => absurd hsize (Nat.not_lt.2 h)
  | case6 links place endsOpen name names hdot hup hsize hentry =>
    rw [lookup_eq_child?] at hentry
    exact refused ⟨hdot, hup⟩ links fun _ n hn => by simp [hentry] at hn
  | case7 links place endsOpen name names hdot hup hsize hentry =>
    rw [lookup_eq_child?] at hentry
    exact refused ⟨hdot, hup⟩ links fun _ n hn => by simp [hentry] at hn
  | case8 links place endsOpen name names hdot hup hsize entries hentry ih =>
    rw [lookup_eq_child?] at hentry
    simp only [leads_name_iff ⟨hdot, hup⟩, hentry, Nat.not_lt.1 hsize, true_and]
    exact ih
  | case9 links place endsOpen name names hdot hup hsize content hentry =>
    rw [lookup_eq_child?] at hentry
    exact refused ⟨hdot, hup⟩ links fun _ n hn => ⟨content, by simpa [hentry, eq_comm] using hn⟩
  | case10 links place endsOpen name names hdot hup hsize content hentry =>
    rw [lookup_eq_child?] at hentry
    exact refused ⟨hdot, hup⟩ links fun _ n hn => ⟨content, by simpa [hentry, eq_comm] using hn⟩
  | case11 links place endsOpen name names hdot hup hsize target hentry hlast =>
    -- Links are followed at the end, too.
    simp at hlast
  | case12 place endsOpen name names hdot hup hsize target hentry hlast =>
    rw [lookup_eq_child?] at hentry
    simp only [leads_name_iff ⟨hdot, hup⟩, hentry]
    -- No link is allowed any more, and this one would be one.
    refine ⟨nofun, ?_⟩
    rintro ⟨k, hk, -, k', rfl, -⟩
    omega
  | case13 place endsOpen name names hdot hup hsize target hentry hlast links route ih =>
    rw [lookup_eq_child?] at hentry
    simp only [leads_name_iff ⟨hdot, hup⟩, hentry, Nat.not_lt.1 hsize, true_and]
    rw [dite_eq_ite] at ih
    -- The steps of the link take its place, and one link less is allowed on the rest of the way.
    refine Iff.trans ih ?_
    constructor
    · rintro ⟨k, hk, h⟩
      exact ⟨k + 1, Nat.succ_le_succ hk, k, rfl, h⟩
    · rintro ⟨_, hk, k, rfl, h⟩
      exact ⟨k, Nat.le_of_succ_le_succ hk, h⟩

/-- A path resolves to a directory: its text is one that can name something, and its steps lead to
the directory through no more links than may be on one way. -/
structure ResolvesTo (fs : FileSystem) (text : String) (d : Directory) : Prop where
  /-- No name holds the character that none can hold. -/
  noNull : hasNull text = false
  /-- There is something written. -/
  nonempty : text.isEmpty = false
  /-- The path is not too long. -/
  size : text.utf8ByteSize ≤ pathLimit
  /-- The steps lead to the directory, from the root or from where relative paths start. -/
  leads : ∃ k ≤ linkLimit,
    fs.Leads (if (Route.ofText text).isAbsolute then [] else fs.here) (Route.ofText text).steps k d

/-- What is found at the end of a path is a directory exactly when following it comes to one. -/
theorem find_eq_directory_iff {text : String} :
    fs.find text = .ok (.directory d) ↔ arrival? (fs.resolve true text) = some d := by
  unfold find
  rcases fs.resolve true text with f | ⟨place, n, endsOpen⟩ | ⟨place, name, endsOpen⟩
  · exact ⟨nofun, nofun⟩
  · cases n with
    | directory entries => simp [arrival?]
    -- A file is refused or found, depending on how the way ended, and is no directory either way.
    | file content => cases endsOpen <;> exact ⟨nofun, nofun⟩
    | link target => exact ⟨nofun, nofun⟩
  · exact ⟨nofun, nofun⟩

/-- Asking what a path leads to is answered by a directory exactly when the path resolves to it. -/
theorem node?_eq_directory_iff {text : String} :
    fs.node? text = .ok (some (.directory d)) ↔ fs.ResolvesTo text d := by
  have hfind : fs.node? text = .ok (some (.directory d)) ↔
      hasNull text = false ∧ arrival? (fs.resolve true text) = some d := by
    rw [← find_eq_directory_iff, node?]
    cases hasNull text with
    | true => simp
    | false =>
      rcases fs.find text with f | n
      · cases hf : f.meansAbsent <;> simp [hf]
      · simp
  have hresolve : arrival? (fs.resolve true text) = some d ↔
      text.isEmpty = false ∧ text.utf8ByteSize ≤ pathLimit ∧ ∃ k ≤ linkLimit,
        fs.Leads (if (Route.ofText text).isAbsolute then [] else fs.here)
          (Route.ofText text).steps k d := by
    have hwalk : arrival? (fs.follow true (Route.ofText text)) = some d ↔ ∃ k ≤ linkLimit,
        fs.Leads (if (Route.ofText text).isAbsolute then [] else fs.here)
          (Route.ofText text).steps k d := arrival?_walk_iff
    rw [resolve, ← hwalk]
    cases text.isEmpty with
    | true => simp [arrival?]
    | false =>
      by_cases hsize : pathLimit < text.utf8ByteSize
      · simp [hsize, arrival?, Nat.not_le.2 hsize]
      · simp [hsize, Nat.not_lt.1 hsize]
  rw [hfind, hresolve]
  exact ⟨fun ⟨hnull, hempty, hsize, hleads⟩ => ⟨hnull, hempty, hsize, hleads⟩,
    fun h => ⟨h.noNull, h.nonempty, h.size, h.leads⟩⟩

/-- A directory holds data: its path resolves to a directory with an entry of any kind. -/
def HoldsData (fs : FileSystem) (directory : String) : Prop :=
  ∃ d, fs.ResolvesTo (Path.ofText directory).text d ∧ d ≠ []

/-- Where the lookup is answered, a store is present exactly if there is data. -/
theorem eq_true_iff_holdsData {directory : String} {b : Bool}
    (h : fs.holdsStore directory = .ok b) : b = true ↔ fs.HoldsData directory := by
  unfold HoldsData
  simp only [← node?_eq_directory_iff]
  unfold holdsStore at h
  generalize fs.node? (Path.ofText directory).text = found at h ⊢
  rcases found with e | _ | entries | content | target
  · cases h
  · cases h
    simp
  · cases h
    simp
  · cases h
    simp
  · cases h
    simp

end FileSystem

end StoreTuning
