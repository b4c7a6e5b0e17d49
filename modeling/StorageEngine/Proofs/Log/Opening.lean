import StorageEngine.Proofs.Disk.Directory
import StorageEngine.Proofs.Log.Scanning
import StorageEngine.Proofs.Log.System
import StorageEngine.Session.Backing

/-!
# Opening a log file

The journal that is opened on a file has the records that a scan finds there, and the file is cut
where they end.  Opening it once more finds the same records and changes nothing.  A file that is
rejected is not opened, and nothing at all is touched.
-/

namespace StorageEngine

namespace Disk.Tree

variable {t : Tree} {path : Path} {bytes : Bytes}

theorem node?_of_file? (h : t.file? path = some bytes) :
  t.node? path = some (.file bytes)
  := by
  rw [file?] at h
  split at h
  · next hnode =>
    cases h
    exact hnode
  · cases h

/-- There is no file at the root. -/
theorem ne_nil_of_file? (h : t.file? path = some bytes) :
  path ≠ []
  := by
  rintro rfl
  cases h

theorem openFile_of_file? (h : t.file? path = some bytes) :
  t.openFile path = .ok (bytes, t)
  := by
  rw [openFile, node?_of_file? h]

/-- A file that gets the content which it has is the same. -/
theorem store_self (h : t.file? path = some bytes) :
  t.store path bytes = t
  := by
  have hnode := node?_of_file? h
  rw [node?, if_neg (ne_nil_of_file? h)] at hnode
  have hnodes : t.nodes.insert path (.file bytes) = t.nodes := by
    apply Std.ExtTreeMap.ext_getElem?
    intro other
    rw [Std.ExtTreeMap.getElem?_insert]
    split
    · next heq => rw [← Std.compare_eq_iff_eq.mp heq, hnode]
    · rfl
  rw [store, hnodes]

/-- A file may get another content, and no directory comes or goes. -/
theorem keeps_store_of_file? (h : t.file? path = some bytes) (content : Bytes) :
  Keeps t (t.store path content)
  := by
  apply Keeps.store content (ne_nil_of_file? h)
  rw [isDirectory, node?_of_file? h]

/-- A route leads to the same destination as long as directories are kept. -/
theorem Keeps.destination? {t' : Tree} (h : Keeps t t') {r : Route}
    (hroute : t.destination? r = some path) :
  t'.destination? r = some path
  := by
  rw [Tree.destination?] at hroute ⊢
  split at hroute
  · rw [Option.bind_eq_some_iff] at hroute ⊢
    obtain ⟨place, hplace, htarget⟩ := hroute
    use place, h.foldlM_step? hplace
    rw [h.target?_eq, htarget]
  · cases hroute

end Disk.Tree

namespace Session.Backing

/-- Whether a text leads to a file, and what is in it. -/
structure Finds (w : Backing) (text : String) (path : Disk.Path) (bs : Bytes) : Prop where
  leads : ∃ r, Disk.Route.ofText? text = some r ∧ w.volume.tree.destination? r = some path
  file_eq : w.volume.tree.file? path = some bs

/-- The backing after a journal was opened on the file at a path, which then has a new content. -/
def withJournal (w : Backing) (path : Disk.Path) (journal : Log.Journal) (file : Bytes) : Backing :=
  { w with volume := w.volume.store path file, journals := w.journals.push ⟨path, journal⟩ }

variable {w : Backing} {text : String} {path : Disk.Path} {bs file : Bytes} {journal : Log.Journal}

theorem Finds.openAlong (h : w.Finds text path bs) :
  (Disk.Route.ofText? text).map w.volume.tree.openAlong
    = some (.ok (path, bs, w.volume.tree))
  := by
  obtain ⟨r, hroute, hpath⟩ := h.leads
  rw [hroute, Option.map_some, Disk.Tree.openAlong, hpath]
  simp only [Disk.Tree.openFile_of_file? h.file_eq]
  rfl

theorem openJournal_of_error {cause : Failure} (h : w.Finds text path bs)
    (hrecover : Log.Journal.recover bs = .error cause) :
  w.openJournal text = (.error cause, w)
  := by
  rw [openJournal, h.openAlong]
  simp only [hrecover]

theorem openJournal_of_ok (h : w.Finds text path bs)
    (hrecover : Log.Journal.recover bs = .ok (journal, file)) :
  w.openJournal text = (.ok (w.journals.size, journal), w.withJournal path journal file)
  := by
  rw [openJournal, h.openAlong]
  simp only [hrecover]
  rfl

/-- The text leads to the same file afterwards. -/
theorem Finds.withJournal (h : w.Finds text path bs) (journal : Log.Journal) (file : Bytes) :
  (w.withJournal path journal file).Finds text path file
  := by
  obtain ⟨r, hroute, hpath⟩ := h.leads
  have hkeeps := Disk.Tree.keeps_store_of_file? h.file_eq file
  constructor
  · use r, hroute
    apply hkeeps.destination? hpath
  · have hstored := Disk.Tree.file?_store w.volume.tree path file
      (Disk.Tree.ne_nil_of_file? h.file_eq)
    rwa [if_pos rfl] at hstored

/-- A file that is opened with the content that it has stays as it is, and so do all others. -/
theorem Finds.volume_withJournal (h : w.Finds text path bs) (journal : Log.Journal) :
  (w.withJournal path journal bs).volume = w.volume
  := by
  simp only [Backing.withJournal, Disk.Volume.store, Disk.Tree.store_self h.file_eq]

/-- The other files are not touched. -/
theorem Finds.file?_withJournal (h : w.Finds text path bs) (journal : Log.Journal) (file : Bytes)
    {other : Disk.Path} (hother : other ≠ path) :
  (w.withJournal path journal file).volume.tree.file? other = w.volume.tree.file? other
  := by
  have hstored := Disk.Tree.file?_store w.volume.tree other file
    (Disk.Tree.ne_nil_of_file? h.file_eq)
  rwa [if_neg hother] at hstored

end Session.Backing

namespace Log

variable {bs : Bytes} {records : List Bytes} {stop k : Nat}

/-- The journal whose records are all in the file. -/
def journalOf (records : List Bytes) : Journal :=
  ⟨[], .ofNat records.length, .ofNat records.length⟩

theorem recover_of_accepted (h : Accepted bs records stop) :
  Journal.recover bs = .ok (journalOf records, bs.take stop)
  := by
  obtain ⟨hscan, hstop⟩ := scan_eq_ok_iff.mpr h
  rw [Journal.recover, hscan, ← hstop]
  rfl

theorem recover_of_rejected (h : Rejected bs k) :
  Journal.recover bs = .error (.corruptRecord ⟨.ofNat k⟩)
  := by
  rw [Journal.recover, scan_of_rejected h]
  rfl

/-- What is left of an accepted file is accepted as a whole, with the same records. -/
theorem Accepted.take (h : Accepted bs records stop) :
  Accepted (bs.take stop) records stop
  := by
  have hlength : (bs.take stop).length = stop := by
    rw [h.take_eq, ← h.stop_eq]
  constructor
  · exact h.fits
  · exact h.stop_eq
  · rw [List.take_take, Nat.min_self, h.take_eq]
  · rw [List.drop_of_length_le (Nat.le_of_eq hlength)]
    apply Torn.inHeader
    decide

theorem Accepted.length_lt (h : Accepted bs records stop) (hlength : bs.length < 2 ^ 64) :
  records.length < UInt64.size
  := by
  have hrecords := length_le_length_encode records
  have htake := bs.length_take_le' stop
  rw [h.take_eq] at htake
  have hsize : UInt64.size = 2 ^ 64 := rfl
  rw [headerSize] at hrecords
  omega

/-- A scan finds some records that end somewhere exactly if the file is accepted with them, and with
no others; it fails at the record of a number exactly if the file is rejected for that one, and for
no other cause.  A file that is rejected is left as it is with all else when it is opened.  Of one
that is accepted what the records take is left, no other file is touched, and the journal that is
opened on it has their number as that of its latest record; once it is opened again the journal is
the same, and so are all files. -/
theorem format_of_scan (hlength : bs.length < 2 ^ 64 - 2 ^ 33) :
  (∀ records stop, scan bs = .ok records ∧ extent records = stop ↔ Accepted bs records stop)
    ∧ (∀ records stop records' stop', Accepted bs records stop → Accepted bs records' stop' →
      records = records' ∧ stop = stop')
    ∧ (∀ lsn, scan bs = .error (.corruptRecord lsn) ↔ Rejected bs lsn.value.toNat)
    ∧ (∀ cause, scan bs = .error cause → ∃ lsn, cause = .corruptRecord lsn)
    ∧ ∀ (w : Session.Backing) (text : String) (path : Disk.Path), w.Finds text path bs →
      (∀ k, Rejected bs k → w.openJournal text = (.error (.corruptRecord ⟨.ofNat k⟩), w))
      ∧ ∀ records stop, Accepted bs records stop →
        ∃ journal w', w.openJournal text = (.ok (w.journals.size, journal), w')
          ∧ journal.latest? = number? records.length
          ∧ journal.stored? = number? records.length
          ∧ w'.Finds text path (bs.take stop)
          ∧ (∀ other, other ≠ path → w'.volume.tree.file? other = w.volume.tree.file? other)
          ∧ scan (bs.take stop) = .ok records
          ∧ (w'.openJournal text).1 = .ok (w'.journals.size, journal)
          ∧ (w'.openJournal text).2.volume = w'.volume
  := by
  have hroom : bs.length < 2 ^ 64 := Nat.lt_of_lt_of_le hlength (Nat.sub_le _ _)
  constructor
  · intro records stop
    apply scan_eq_ok_iff
  constructor
  · intro records stop records' stop' haccepted haccepted'
    obtain ⟨hscan, hstop⟩ := scan_eq_ok_iff.mpr haccepted
    obtain ⟨hscan', hstop'⟩ := scan_eq_ok_iff.mpr haccepted'
    rw [hscan] at hscan'
    cases hscan'
    use rfl
    rw [← hstop, hstop']
  constructor
  · intro lsn
    apply scan_eq_error_iff hroom
  constructor
  · intro cause hscan
    obtain ⟨k, -, rfl⟩ := exists_rejected hscan
    exact ⟨_, rfl⟩
  · intro w text path hfinds
    constructor
    · intro k hrejected
      apply Session.Backing.openJournal_of_error hfinds (recover_of_rejected hrejected)
    · intro records stop haccepted
      have hcount := haccepted.length_lt hroom
      have hleft := hfinds.withJournal (journalOf records) (bs.take stop)
      have hagain := recover_of_accepted haccepted.take
      rw [List.take_take, Nat.min_self] at hagain
      refine ⟨journalOf records, w.withJournal path (journalOf records) (bs.take stop),
        Session.Backing.openJournal_of_ok hfinds (recover_of_accepted haccepted),
        lsn?_ofNat hcount, lsn?_ofNat hcount, hleft, ?_,
        (scan_eq_ok_iff.mpr haccepted.take).1, ?_, ?_⟩
      · intro other
        apply hfinds.file?_withJournal
      · rw [Session.Backing.openJournal_of_ok hleft hagain]
      · rw [Session.Backing.openJournal_of_ok hleft hagain]
        apply hleft.volume_withJournal

/-- A record, and the beginning of another one. -/
def tornFile : Bytes :=
  encode [[7]] ++ [1, 2, 3]

/-- A record that announces a wrong checksum. -/
def spoiledFile : Bytes :=
  header 1 0 ++ [7]

/-- A backing with one file. -/
def oneFile (name : String) (bs : Bytes) : Session.Backing :=
  { Session.Backing.initial with
    volume := ⟨⟨Std.ExtTreeMap.empty.insert [name] (.file bs)⟩, none⟩ }

theorem ofText?_log :
  Disk.Route.ofText? "log" = some ⟨["log"], .plain⟩
  := by
  have hsplit : "log".splitOn "/" = ["log"] := by
    rw [String.splitOn, if_neg (by decide)]
    rw [String.splitOnAux, if_neg (by decide), if_neg (by decide)]
    rw [String.splitOnAux, if_neg (by decide), if_neg (by decide)]
    rw [String.splitOnAux, if_neg (by decide), if_neg (by decide)]
    rw [String.splitOnAux, if_pos (by decide)]
    decide
  rw [Disk.Route.ofText?, hsplit]
  rfl

theorem finds_oneFile (bs : Bytes) :
  (oneFile "log" bs).Finds "log" ["log"] bs
  := by
  constructor
  · use ⟨["log"], .plain⟩, ofText?_log
    rfl
  · rw [Disk.Tree.file?, Disk.Tree.node?, if_neg (by decide)]
    have hstored : (oneFile "log" bs).volume.tree.nodes[["log"]]? = some (.file bs) :=
      Std.ExtTreeMap.getElem?_insert_self
    rw [hstored]

/-- Of the one file the record is left and the rest is cut; the other one is left as it is. -/
theorem format_of_tornFile :
  tornFile.length < 2 ^ 64 - 2 ^ 33
    ∧ scan tornFile = .ok [[7]]
    ∧ (∃ journal w, (oneFile "log" tornFile).openJournal "log" = (.ok (0, journal), w)
      ∧ journal.latest? = some ⟨1⟩ ∧ w.Finds "log" ["log"] (encode [[7]])
      ∧ (w.openJournal "log").2.volume = w.volume)
    ∧ spoiledFile.length < 2 ^ 64 - 2 ^ 33
    ∧ scan spoiledFile = .error (.corruptRecord ⟨1⟩)
    ∧ (oneFile "log" spoiledFile).openJournal "log"
      = (.error (.corruptRecord ⟨1⟩), oneFile "log" spoiledFile)
  := by
  have hlength : tornFile.length < 2 ^ 64 - 2 ^ 33 := by decide
  have htake : tornFile.take 9 = encode [[7]] := List.take_left' rfl
  have haccepted : Accepted tornFile [[7]] 9 := by
    refine ⟨by decide, rfl, htake, ?_⟩
    apply Torn.inHeader
    decide
  have hlength' : spoiledFile.length < 2 ^ 64 - 2 ^ 33 := by decide
  have hrejected : Rejected spoiledFile 1 := by
    refine ⟨[], spoiledFile, by decide, rfl, rfl, ?_⟩
    apply @Spoiled.intro [7] 0 [] rfl
    decide +kernel
  obtain ⟨-, -, hfails, -, hopen'⟩ := format_of_scan hlength'
  have hrefused := (hopen' _ "log" ["log"] (finds_oneFile spoiledFile)).1 1 hrejected
  obtain ⟨hfound, -, -, -, hopen⟩ := format_of_scan hlength
  obtain ⟨journal, w, hok, hlatest, -, hleft, -, -, -, hsame⟩ :=
    (hopen (oneFile "log" tornFile) "log" ["log"] (finds_oneFile tornFile)).2 [[7]] 9 haccepted
  rw [htake] at hleft
  have hscan := ((hfound [[7]] 9).mpr haccepted).1
  exact ⟨hlength, hscan, ⟨journal, w, hok, hlatest, hleft, hsame⟩, hlength',
    (hfails ⟨1⟩).mpr hrejected, hrefused⟩

end Log

end StorageEngine
