import Polyglot.Proofs.Json.Record
import Polyglot.Proofs.Text.Glyphs
import Polyglot.Service

/-!
# Documents read back

How a language, a signal, an overlay and a detection may be written as objects: with their fields in
any order, with blanks and other spellings of strings, without fields that hold their defaults, and
with members that nobody asks for. Whichever of these a document is, it is read as what was written,
and so is a file on starting the service (`Overlay.documents_read_back`).
-/

namespace Polyglot

open Json (FieldForm ReadsAs Drafts AreApart IsString IsArray IsRecord IsDocument IsBlanks
  HasFields Value readAfter)

variable {text : List Char}

/-- A document is parsed if its value is read. -/
theorem parse_of_isDocument {α : Type} {read : Json.Reader α} {x : α} {Writes : List Char → Prop}
    {text : String} (h : IsDocument Writes text)
    (hread : ∀ {value}, Writes value → ReadsAs read value x) : parse read text = .ok x :=
  Json.document_of_isDocument h hread

/-! ## Languages -/

namespace Language

/-- How the fields of the language are written. -/
def forms (l : Language) : List FieldForm := [
  { keys := ["id"], Writes := IsString l.id, MayLack := False },
  { keys := ["name"], Writes := IsString l.name, MayLack := False },
  { keys := ["extensions"], Writes := IsArray IsString l.extensions,
    MayLack := l.extensions = [] }]

/-- The text is an object that stands for the language. -/
def Writes (l : Language) (text : List Char) : Prop := IsRecord l.forms text

/-- What has been read of the language after members with these keys. -/
def draftAfter (l : Language) (labels : List String) : Draft where
  id := readAfter ["id"] l.id labels
  name := readAfter ["name"] l.name labels
  extensions := readAfter ["extensions"] l.extensions labels

/-- No key stands for two fields of a language. -/
theorem areApart_forms (l : Language) : AreApart l.forms := by
  simp [AreApart, forms]

/-- The draft fills up to the language, a field at a time. -/
theorem drafts (l : Language) : Drafts fields l.forms l.draftAfter where
  fits := by
    refine .cons (Json.fits_of (fun _ => rfl) ?_ ?_) (.cons (Json.fits_of (fun _ => rfl) ?_ ?_)
      (.cons (Json.fits_of (fun _ => rfl) ?_ ?_) .nil))
    · simp [draftAfter, readAfter]
    · exact fun _ => Json.readsAs_string
    · simp [draftAfter, readAfter]
    · exact fun _ => Json.readsAs_string
    · simp [draftAfter, readAfter]
    · exact fun _ h => Json.readsAs_list h fun _ _ _ => Json.readsAs_string
  apart := l.areApart_forms
  unknown label h labels := by
    simp only [forms, List.forall_mem_cons] at h
    simp only [draftAfter, Json.readAfter_cons_of_not_mem h.1, Json.readAfter_cons_of_not_mem h.2.1,
      Json.readAfter_cons_of_not_mem h.2.2.1]

/-- A written form of a language is read as the language. -/
theorem readsAs_read {l : Language} (h : l.Writes text) : ReadsAs read text l := by
  refine Json.readsAs_record l.drafts (fun labels hall => ?_) h
  simp only [forms, List.forall_mem_cons, false_or] at hall
  simp only [Draft.complete?, draftAfter, Json.readAfter_of_mem hall.1,
    Json.readAfter_of_mem hall.2.1, Json.getD_readAfter hall.2.2.1]
  rfl

/-- What is written of a language is one of its forms. -/
theorem writes_toJson (l : Language) : l.Writes l.toJson.write := by
  refine Json.isRecord_write l.areApart_forms (.cons ?_ (.cons ?_ (.cons ?_ .nil)))
  · exact ⟨List.mem_singleton_self _, Json.isString_write _⟩
  · exact ⟨List.mem_singleton_self _, Json.isString_write _⟩
  · exact ⟨List.mem_singleton_self _, Json.isArray_write fun x _ => Json.isString_write x⟩

end Language

/-! ## Signals -/

namespace SignalSpec

/-- How the fields of the signal are written. -/
def forms (s : SignalSpec) : List FieldForm := [
  { keys := ["pattern"], Writes := IsString s.pattern, MayLack := False },
  { keys := ["language"], Writes := IsString s.language, MayLack := False },
  { keys := ["weight"], Writes := (· = (Json.Number.int s.weight.toNat).write), MayLack := False },
  { keys := ["case_insensitive"], Writes := (· = Json.boolWord s.caseInsensitive),
    MayLack := s.caseInsensitive = false }]

/-- The text is an object that stands for the signal. -/
def Writes (s : SignalSpec) (text : List Char) : Prop := IsRecord s.forms text

/-- What has been read of the signal after members with these keys. -/
def draftAfter (s : SignalSpec) (labels : List String) : Draft where
  pattern := readAfter ["pattern"] s.pattern labels
  language := readAfter ["language"] s.language labels
  weight := readAfter ["weight"] s.weight labels
  caseInsensitive := readAfter ["case_insensitive"] s.caseInsensitive labels

theorem areApart_forms (s : SignalSpec) : AreApart s.forms := by
  simp [AreApart, forms]

theorem drafts (s : SignalSpec) : Drafts fields s.forms s.draftAfter where
  fits := by
    refine .cons (Json.fits_of (fun _ => rfl) ?_ ?_) (.cons (Json.fits_of (fun _ => rfl) ?_ ?_)
      (.cons (Json.fits_of (fun _ => rfl) ?_ ?_) (.cons (Json.fits_of (fun _ => rfl) ?_ ?_) .nil)))
    · simp [draftAfter, readAfter]
    · exact fun _ => Json.readsAs_string
    · simp [draftAfter, readAfter]
    · exact fun _ => Json.readsAs_string
    · simp [draftAfter, readAfter]
    · rintro _ rfl
      exact Json.readsAs_uint32 s.weight
    · simp [draftAfter, readAfter]
    · rintro _ rfl
      exact Json.readsAs_bool s.caseInsensitive
  apart := s.areApart_forms
  unknown label h labels := by
    simp only [forms, List.forall_mem_cons] at h
    simp only [draftAfter, Json.readAfter_cons_of_not_mem h.1, Json.readAfter_cons_of_not_mem h.2.1,
      Json.readAfter_cons_of_not_mem h.2.2.1, Json.readAfter_cons_of_not_mem h.2.2.2.1]

/-- A written form of a signal is read as the signal. -/
theorem readsAs_read {s : SignalSpec} (h : s.Writes text) : ReadsAs read text s := by
  refine Json.readsAs_record s.drafts (fun labels hall => ?_) h
  simp only [forms, List.forall_mem_cons, false_or] at hall
  simp only [Draft.complete?, draftAfter, Json.readAfter_of_mem hall.1,
    Json.readAfter_of_mem hall.2.1, Json.readAfter_of_mem hall.2.2.1,
    Json.getD_readAfter hall.2.2.2.1]
  rfl

theorem writes_toJson (s : SignalSpec) : s.Writes s.toJson.write := by
  refine Json.isRecord_write s.areApart_forms (.cons ?_ (.cons ?_ (.cons ?_ (.cons ?_ .nil))))
  · exact ⟨List.mem_singleton_self _, Json.isString_write _⟩
  · exact ⟨List.mem_singleton_self _, Json.isString_write _⟩
  · exact ⟨List.mem_singleton_self _, by rw [Value.ofNat, Value.write]⟩
  · exact ⟨List.mem_singleton_self _, rfl⟩

end SignalSpec

/-! ## Detections -/

namespace Detection

/-- How the fields of the detection are written. -/
def forms (d : Detection) : List FieldForm := [
  { keys := ["language"], Writes := IsString d.language, MayLack := False },
  { keys := ["name"], Writes := IsString d.name, MayLack := False }]

/-- The text is an object that stands for the detection. -/
def Writes (d : Detection) (text : List Char) : Prop := IsRecord d.forms text

/-- What has been read of the detection after members with these keys. -/
def draftAfter (d : Detection) (labels : List String) : Draft where
  language := readAfter ["language"] d.language labels
  name := readAfter ["name"] d.name labels

theorem areApart_forms (d : Detection) : AreApart d.forms := by
  simp [AreApart, forms]

theorem drafts (d : Detection) : Drafts fields d.forms d.draftAfter where
  fits := by
    refine .cons (Json.fits_of (fun _ => rfl) ?_ ?_) (.cons (Json.fits_of (fun _ => rfl) ?_ ?_) .nil)
    · simp [draftAfter, readAfter]
    · exact fun _ => Json.readsAs_string
    · simp [draftAfter, readAfter]
    · exact fun _ => Json.readsAs_string
  apart := d.areApart_forms
  unknown label h labels := by
    simp only [forms, List.forall_mem_cons] at h
    simp only [draftAfter, Json.readAfter_cons_of_not_mem h.1, Json.readAfter_cons_of_not_mem h.2.1]

/-- A written form of a detection is read as the detection. -/
theorem readsAs_read {d : Detection} (h : d.Writes text) : ReadsAs read text d := by
  refine Json.readsAs_record d.drafts (fun labels hall => ?_) h
  simp only [forms, List.forall_mem_cons, false_or] at hall
  simp only [Draft.complete?, draftAfter, Json.readAfter_of_mem hall.1,
    Json.readAfter_of_mem hall.2.1]
  rfl

theorem writes_toJson (d : Detection) : d.Writes d.toJson.write := by
  refine Json.isRecord_write d.areApart_forms (.cons ?_ (.cons ?_ .nil))
  · exact ⟨List.mem_singleton_self _, Json.isString_write _⟩
  · exact ⟨List.mem_singleton_self _, Json.isString_write _⟩

/-- A detection reads back as it has been written. -/
theorem parse_toJson (d : Detection) : parse read d.toJson.text = .ok d :=
  parse_of_isDocument (Json.isDocument_text d.writes_toJson) readsAs_read

end Detection

/-! ## Overlays -/

namespace Overlay

/-- How the fields of the overlay are written. -/
def forms (o : Overlay) : List FieldForm := [
  { keys := ["languages"], Writes := IsArray Language.Writes o.languages,
    MayLack := o.languages = [] },
  { keys := ["signals"], Writes := IsArray SignalSpec.Writes o.signals,
    MayLack := o.signals = [] }]

/-- The text is an object that stands for the overlay. -/
def Writes (o : Overlay) (text : List Char) : Prop := IsRecord o.forms text

/-- What has been read of the overlay after members with these keys. -/
def draftAfter (o : Overlay) (labels : List String) : Draft where
  languages := readAfter ["languages"] o.languages labels
  signals := readAfter ["signals"] o.signals labels

/-- No key stands for both fields of an overlay. -/
theorem areApart_forms (o : Overlay) : AreApart o.forms := by
  simp [AreApart, forms]

theorem drafts (o : Overlay) : Drafts fields o.forms o.draftAfter where
  fits := by
    refine .cons (Json.fits_of (fun _ => rfl) ?_ ?_) (.cons (Json.fits_of (fun _ => rfl) ?_ ?_) .nil)
    · simp [draftAfter, readAfter]
    · exact fun _ h => Json.readsAs_list h fun _ _ _ => Language.readsAs_read
    · simp [draftAfter, readAfter]
    · exact fun _ h => Json.readsAs_list h fun _ _ _ => SignalSpec.readsAs_read
  apart := o.areApart_forms
  unknown label h labels := by
    simp only [forms, List.forall_mem_cons] at h
    simp only [draftAfter, Json.readAfter_cons_of_not_mem h.1, Json.readAfter_cons_of_not_mem h.2.1]

/-- A written form of an overlay is read as the overlay. -/
theorem readsAs_read {o : Overlay} (h : o.Writes text) : ReadsAs read text o := by
  refine Json.readsAs_record o.drafts (fun labels hall => ?_) h
  simp only [forms, List.forall_mem_cons] at hall
  simp only [Draft.complete?, draftAfter, Json.getD_readAfter hall.1,
    Json.getD_readAfter hall.2.1]

/-- What is written of an overlay is one of its forms. -/
theorem writes_toJson (o : Overlay) : o.Writes o.toJson.write := by
  refine Json.isRecord_write o.areApart_forms (.cons ?_ (.cons ?_ .nil))
  · exact ⟨List.mem_singleton_self _, Json.isArray_write fun l _ => l.writes_toJson⟩
  · exact ⟨List.mem_singleton_self _, Json.isArray_write fun s _ => s.writes_toJson⟩

/-- A file that holds a written form of an overlay is read as the overlay. -/
theorem ofFile_of_isDocument {o : Overlay} {text : String} (h : IsDocument o.Writes text)
    (path : String) : ofFile path (.ok text.toUTF8) = .ok o := by
  have hread : Json.document read (Text.glyphsOf text.toList) = .ok o :=
    Json.document_of_isDocument h readsAs_read
  simp only [ofFile, Text.glyphs_toUTF8, Text.characters?_glyphsOf, hread]

/-- A service that is started on such a file is the one with the overlay, or is refused as the
overlay is. -/
theorem start_of_isDocument {o : Overlay} {text : String} (h : IsDocument o.Writes text)
    {settings : Settings} {path : String} {files : String → Except ReadFault ByteArray}
    (hpath : settings.overlayPath = some path) (hfile : files path = .ok text.toUTF8) :
    Service.start settings files = (Detector.standard.withOverlay o).map fun d =>
      { settings := settings, detector := d } := by
  simp only [Service.start, hpath, hfile, ofFile_of_isDocument h, bind, Except.bind]
  cases Detector.standard.withOverlay o <;> rfl

/-- **Documents read back.** Every text that stands for an overlay is read as this overlay, and the
service starts on a file with the text as it does with the overlay. What is written of an overlay is
such a text, and what is written of a language, of a signal and of a detection reads back too. -/
theorem documents_read_back (o : Overlay) :
    (∀ text, IsDocument o.Writes text → parse read text = .ok o ∧
      ∀ (settings : Settings) (path : String) (files : String → Except ReadFault ByteArray),
        settings.overlayPath = some path → files path = .ok text.toUTF8 →
          Service.start settings files =
            (Detector.standard.withOverlay o).map fun d =>
              { settings := settings, detector := d }) ∧
    IsDocument o.Writes o.toJson.text ∧ parse read o.toJson.text = .ok o ∧
    (∀ l : Language, parse Language.read l.toJson.text = .ok l) ∧
    (∀ s : SignalSpec, parse SignalSpec.read s.toJson.text = .ok s) ∧
    ∀ d : Detection, parse Detection.read d.toJson.text = .ok d := by
  have hwritten : IsDocument o.Writes o.toJson.text := Json.isDocument_text o.writes_toJson
  refine ⟨fun text h => ⟨parse_of_isDocument h readsAs_read, fun settings path files hpath hfile =>
    start_of_isDocument h hpath hfile⟩, hwritten, parse_of_isDocument hwritten readsAs_read,
    fun l => ?_, fun s => ?_, fun d => d.parse_toJson⟩
  · exact parse_of_isDocument (Json.isDocument_text l.writes_toJson) Language.readsAs_read
  · exact parse_of_isDocument (Json.isDocument_text s.writes_toJson) SignalSpec.readsAs_read

/-- An overlay in a document with blanks around it, with a member that nobody asks for, with a name
that is spelled by the number of its character, with its fields in another order, and without what
holds a default. -/
theorem documents_read_back_respelled :
    let o : Overlay := { languages := [{ id := "a", name := "A" }] }
    let text :=
      " \x7b\"note\":null,\"languages\":[\x7b\"name\":\"\\u0041\",\"id\":\"a\"\x7d]\x7d\n"
    let settings : Settings := { overlayPath := some "overlay.json" }
    parse read text = .ok o ∧
      Service.start settings (fun _ => .ok text.toUTF8) =
        (Detector.standard.withOverlay o).map fun d =>
          { settings := settings, detector := d } := by
  intro o text settings
  let l : Language := { id := "a", name := "A" }
  have hkey (key : String) := Json.spelled_flatMap_writeChar key.toList
  have hblanks := Json.isBlanks_nil
  have hunit : Json.IsUnit ['0', '0', '4', '1'] 0x41 := ⟨rfl, [0, 0, 4, 1], rfl, rfl⟩
  have hname : IsString "A" _ := .intro (.cons (.number hunit rfl rfl) .nil)
  have hmembers : HasFields l.forms [("name", _), ("id", _)] :=
    { known := by simpa [Language.forms] using ⟨hname, Json.isString_write "a"⟩
      unknown := by simp [Language.forms]
      once := by simp [Language.forms]
      all := by simp [Language.forms, l] }
  have hlanguage : l.Writes _ := ⟨_, hmembers, _,
    .cons ⟨_, hkey "name", .intro hblanks hblanks⟩
      (.cons ⟨_, hkey "id", .intro hblanks hblanks⟩ .nil),
    .filled hblanks (.next hblanks hblanks (.last hblanks))⟩
  -- the language is in order, and now the overlay around it
  have hlanguages : IsArray Language.Writes [l] _ :=
    ⟨_, .cons hlanguage .nil, .filled hblanks (.last hblanks)⟩
  have hfields : HasFields o.forms [("note", ['n', 'u', 'l', 'l']), ("languages", _)] :=
    { known := by simpa [forms] using hlanguages
      unknown := by simpa [forms] using Json.IsJson.null
      once := by simp [forms]
      all := by simp [forms, o] }
  have hwritten : o.Writes _ := ⟨_, hfields, _,
    .cons ⟨_, hkey "note", .intro hblanks hblanks⟩
      (.cons ⟨_, hkey "languages", .intro hblanks hblanks⟩ .nil),
    .filled hblanks (.next hblanks hblanks (.last hblanks))⟩
  have hdocument : IsDocument o.Writes text :=
    ⟨[' '], _, ['\n'], by simp [IsBlanks], hwritten, by simp [IsBlanks], by decide +kernel⟩
  obtain ⟨hread, hstart⟩ := (documents_read_back o).1 text hdocument
  exact ⟨hread, hstart settings "overlay.json" _ rfl rfl⟩

end Overlay

end Polyglot
