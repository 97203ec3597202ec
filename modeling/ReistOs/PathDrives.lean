import ReistOs.PathGuarantees

/-! Paths that name a drive, in both resolvers. -/

namespace ReistOs.Paths

open SlashPath

/-- The end of `shell_resolve_path`: a path on a drive with this mount point and directory. -/
def shellResolveOnDrive (mountPoint base remainder : Text) : Except ShellPathError Text :=
  (shellPathNormalize base remainder).bind fun drivePath => shellPathJoinMount mountPoint drivePath

def StaysOnDrive (mount : Directory vfsPathCapacity) (base : Directory shellPathMax)
    (rest out : Text) : Prop :=
  (∃ below, out = marks.render (mount.names ++ below)) ∧
    shellResolveOnDrive mount.text base.text rest = .ok out

def climbs : List Text → List Text → Nat
  | _, [] => 0
  | directory, name :: names =>
    (if name = [0x2E, 0x2E] ∧ directory = [] then 1 else 0) +
      climbs (marks.step directory name) names

section Walks

variable {mount directory names : List Text}

theorem step_take {k : Nat} (hk : k ≤ mount.length) (name : Text) :
    marks.step (mount.take k ++ directory) name =
      mount.take (k - if name = [0x2E, 0x2E] ∧ directory = [] then 1 else 0) ++
        marks.step directory name := by
  unfold Marks.step
  by_cases hdot : name = [marks.dot]
  · subst hdot
    rfl
  rw [if_neg hdot, if_neg hdot]
  by_cases hdots : name = [marks.dot, marks.dot]
  · rw [if_pos hdots, if_pos hdots]
    by_cases hroot : directory = []
    · subst hroot
      rw [if_pos ⟨hdots, rfl⟩, List.append_nil, List.dropLast_nil, List.append_nil,
        List.dropLast_eq_take, List.take_take, List.length_take]
      congr 1
      omega
    · rw [if_neg fun h => hroot h.2, List.dropLast_append_of_ne_nil hroot, Nat.sub_zero]
  · rw [if_neg hdots, if_neg hdots, if_neg fun h => hdots h.1, List.append_assoc, Nat.sub_zero]

theorem foldl_step_take {k : Nat} (hk : k ≤ mount.length) :
    names.foldl marks.step (mount.take k ++ directory) =
      mount.take (k - climbs directory names) ++ names.foldl marks.step directory := by
  induction names generalizing directory k with
  | nil => rfl
  | cons name names ih =>
    rw [List.foldl_cons, List.foldl_cons, step_take hk, ih (by omega), climbs, Nat.sub_sub]

theorem foldl_step_mount (names : List Text) :
    names.foldl marks.step mount =
      mount.take (mount.length - climbs [] names) ++ names.foldl marks.step [] := by
  have hwalk := @foldl_step_take mount [] names _ le_rfl
  rwa [List.take_length, List.append_nil] at hwalk

theorem fits_of_mount {capacity : Nat} (hcapacity : capacity ≤ shellPathMax)
    (hclimbs : mount = [] ∨ climbs directory names = 0)
    (h : marks.Fits capacity (mount ++ directory) names) :
    marks.Fits shellPathMax directory names := by
  induction names generalizing directory with
  | nil => exact trivial
  | cons name names ih =>
    have hstep : marks.step (mount ++ directory) name = mount ++ marks.step directory name := by
      have htake := @step_take mount directory _ le_rfl name
      rw [List.take_length] at htake
      rcases hclimbs with rfl | hclimbs
      · rfl
      · rw [climbs] at hclimbs
        rwa [Nat.eq_zero_of_add_eq_zero_right hclimbs, Nat.sub_zero, List.take_length] at htake
    rw [Marks.Fits, hstep] at h
    have hle := length_render_le (m := marks) (List.sublist_append_right mount (marks.step directory name))
    exact ⟨by omega, ih (hclimbs.imp_right fun h => by rw [climbs] at h; omega) h.2⟩

end Walks

theorem root_proper : ∀ n ∈ ([] : List Text), marks.Proper n := fun n hn => by cases hn

theorem root_fits : (marks.render []).length < shellPathMax := by decide

variable {client : VfsClient} {letter : UInt8} {mount : Directory vfsPathCapacity}
  {base : Directory shellPathMax} {rest out : Text}

theorem shellResolveOnDrive_iff (mount : Directory shellPathMax)
    (hbase : rest.head?.any separator = false → base.names = []) :
    shellResolveOnDrive mount.text base.text rest = .ok out ↔
      marks.Fits shellPathMax [] (marks.components rest) ∧
        (marks.render (mount.names ++ marks.walk [] rest)).length < shellPathMax ∧
        marks.render (mount.names ++ marks.walk [] rest) = out := by
  have hresolves := normalize_resolves base.proper base.fits rest
  rw [show (if rest.head?.any separator then [] else base.names) = [] by
    split
    next => rfl
    next h => exact hbase (Bool.eq_false_of_not_eq_true h)] at hresolves
  by_cases hfits : marks.Fits shellPathMax [] (marks.components rest)
  · let drive : Directory shellPathMax := ⟨marks.walk [] rest,
      walk_proper root_proper rest, length_walk root_fits hfits⟩
    have hnormal : shellPathNormalize base.text rest = .ok drive.text := hresolves.1 hfits
    rw [shellResolveOnDrive, hnormal]
    simp only [Except.bind]
    rw [join_text, show drive.names = marks.walk [] rest from rfl]
    split
    next hlength => simp [hfits, hlength]
    next hlength => simp [hlength]
  · obtain ⟨e, he⟩ := hresolves.2 hfits
    have hnormal : shellPathNormalize base.text rest = .error e := he
    rw [shellResolveOnDrive, hnormal]
    simp [Except.bind, hfits]

theorem resolvePath_drive
    (hmount : pathDriveMount client letter (List.range vfsPathMaxDrives) = .ok mount.text)
    (hlength : (letter :: 0x3A :: rest).length < vfsPathCapacity) :
    Resolves vfsPathCapacity mount.names rest
      (reistVfsResolvePath client (letter :: 0x3A :: rest)) := by
  have hstart : startOf client (letter :: 0x3A :: rest) = .ok (mount.text, rest) := by
    unfold startOf
    rw [if_pos (show (letter :: 0x3A :: rest)[1]? = some 0x3A from rfl), List.headD_cons, hmount]
    rfl
  exact resolves_of_start mount.proper mount.fits (List.cons_ne_nil _ _) hlength hstart

/-- The walk from the mount point ends below it and where the shell's does as long as the path does
not climb from the drive's root, or the drive is the root. -/
theorem walk_stays (hbase : rest.head?.any separator = false → base.names = [])
    (hfits : marks.Fits vfsPathCapacity mount.names (marks.components rest)) :
    StaysOnDrive mount base rest (marks.render (marks.walk mount.names rest)) ↔
      mount.names = [] ∨ climbs [] (marks.components rest) = 0 := by
  have hlong : vfsPathCapacity ≤ shellPathMax := by decide
  have hshell := fun out => @shellResolveOnDrive_iff base rest out
    ⟨mount.names, mount.proper, mount.fits.trans_le hlong⟩ hbase
  have hwalk : marks.walk mount.names rest = mount.names.take
      (mount.names.length - climbs [] (marks.components rest)) ++ marks.walk [] rest :=
    foldl_step_mount _
  constructor
  · rintro ⟨-, hsame⟩
    have hnames := congrArg marks.components ((hshell _).mp hsame).2.2.symm
    rw [components_render (walk_proper mount.proper rest), components_render fun n hn =>
      (List.mem_append.mp hn).elim (mount.proper n) (walk_proper root_proper rest n), hwalk] at hnames
    have hlength := congrArg List.length (List.append_cancel_right hnames)
    rw [List.length_take] at hlength
    rcases Nat.eq_zero_or_pos mount.names.length with hroot | hpos
    · exact .inl (List.length_eq_zero_iff.mp hroot)
    · exact .inr (by omega)
  · intro hstays
    have hbelow : marks.walk mount.names rest = mount.names ++ marks.walk [] rest := by
      rw [hwalk]
      rcases hstays with hroot | hclimbs
      · rw [hroot, List.take_nil]
      · rw [hclimbs, Nat.sub_zero, List.take_length]
    have hshort : (marks.render (marks.walk mount.names rest)).length < vfsPathCapacity :=
      length_walk mount.fits hfits
    rw [hbelow] at hshort ⊢
    exact ⟨⟨_, rfl⟩, (hshell _).mpr ⟨fits_of_mount hlong hstays (by rwa [List.append_nil]),
      hshort.trans_le hlong, rfl⟩⟩

/-- The clients' answer stays on the drive and is the shell's exactly where the path does not climb
from the drive's root, or the drive is the root. -/
theorem stays_on_drive
    (hmount : pathDriveMount client letter (List.range vfsPathMaxDrives) = .ok mount.text)
    (hbase : rest.head?.any separator = false → base.names = [])
    (hout : reistVfsResolvePath client (letter :: 0x3A :: rest) = .ok out) :
    StaysOnDrive mount base rest out ↔
      mount.names = [] ∨ climbs [] (marks.components rest) = 0 := by
  have hlength : (letter :: 0x3A :: rest).length < vfsPathCapacity := by
    by_contra hlong
    rw [reistVfsResolvePath, if_neg (List.cons_ne_nil _ _), if_pos (not_lt.mp hlong)] at hout
    cases hout
  obtain ⟨hyes, hno⟩ := resolvePath_drive hmount hlength
  by_cases hfits : marks.Fits vfsPathCapacity mount.names (marks.components rest)
  · obtain rfl := Except.ok.inj ((hyes hfits).symm.trans hout)
    exact walk_stays hbase hfits
  · obtain ⟨e, he⟩ := hno hfits
    cases he.symm.trans hout

/-- `fdd0` at `/mnt/fdd0` -/
def floppyClient : VfsClient where
  getcwd := none
  driveInfo _ := (1, {
    type := 2
    name := .ofFn fun i => [0x66, 0x64, 0x64, 0x30].getD i 0
    mountPoint := .ofFn fun i => [0x2F, 0x6D, 0x6E, 0x74, 0x2F, 0x66, 0x64, 0x64, 0x30].getD i 0 })

def floppyNames : List Text := [[0x6D, 0x6E, 0x74], [0x66, 0x64, 0x64, 0x30]]

theorem floppyNames_proper : ∀ n ∈ floppyNames, marks.Proper n := by
  intro n hn
  rcases List.mem_pair.mp hn with rfl | rfl
  · exact ⟨by decide, by simp [marks, separator], by decide, by decide⟩
  · exact ⟨by decide, by simp [marks, separator], by decide, by decide⟩

theorem floppyNames_fit : (marks.render floppyNames).length < vfsPathCapacity := by decide

def floppyMount : Directory vfsPathCapacity := ⟨floppyNames, floppyNames_proper, floppyNames_fit⟩

theorem floppy_mounted :
    pathDriveMount floppyClient 0x41 (List.range vfsPathMaxDrives) = .ok floppyMount.text := by
  decide

theorem floppy_fits :
    marks.Fits vfsPathCapacity floppyMount.names (marks.components [0x2E, 0x2E]) := by
  rw [show marks.components [0x2E, 0x2E] = [[0x2E, 0x2E]] by decide]
  exact ⟨by decide, trivial⟩

theorem floppy_parent : reistVfsResolvePath floppyClient [0x41, 0x3A, 0x2E, 0x2E] =
    .ok (marks.render (marks.walk floppyMount.names [0x2E, 0x2E])) :=
  (resolvePath_drive floppy_mounted (by decide)).1 floppy_fits

def driveRoot : Directory shellPathMax := ⟨[], root_proper, root_fits⟩

theorem floppy_not_stays : ¬ StaysOnDrive floppyMount driveRoot [0x2E, 0x2E]
    (marks.render (marks.walk floppyMount.names [0x2E, 0x2E])) := fun h =>
  absurd ((stays_on_drive floppy_mounted (fun _ => rfl) floppy_parent).mp h) (by decide)

theorem floppy_left :
    ¬ ∀ (client : VfsClient) (letter : UInt8) (mount : Directory vfsPathCapacity) (rest out : Text),
      pathDriveMount client letter (List.range vfsPathMaxDrives) = .ok mount.text →
      reistVfsResolvePath client (letter :: 0x3A :: rest) = .ok out →
      StaysOnDrive mount driveRoot rest out := fun hclaim =>
  absurd ((walk_stays (fun _ => rfl) floppy_fits).mp
    (hclaim _ _ _ _ _ floppy_mounted floppy_parent)) (by decide)

end ReistOs.Paths
