/-
# Words under any spelling

Five options of a layer are words from short lists: the log level, the authentication mode, the
two modes of protection and the kind of connection to the agent.  The rules and the pass over the
references to secrets look at these words without regard to the case of the letters A to Z, so a
layer with other spellings is accepted just if the layer is, and has the same jobs.  What reaches
the engine and the log is the word of the list.
-/
import BackupControl.Proofs.Rules.Words
import BackupControl.Proofs.Service.RestoreJob
import BackupControl.Proofs.Service.Resolution

namespace BackupControl

/-! ## Writing secrets back -/

namespace SecretField

variable {α β : Type} {fields : List (SecretField α)}

/-- What each of some options leaves alone is left alone by writing them. -/
theorem write_frame {g : α → β} (h : ∀ f ∈ fields, ∀ v a, g (f.put v a) = g a)
    (values : List String) (a : α) : g (write fields values a) = g a := by
  induction fields generalizing values a with
  | nil => rfl
  | cons f fields ih =>
    obtain ⟨hf, hfields⟩ := List.forall_mem_cons.1 h
    cases values with
    | nil => rfl
    | cons v values => exact (ih hfields values (f.put v a)).trans (hf v a)

/-- A change that commutes with each of some options commutes with writing them. -/
theorem write_comm {h : α → α} (hcomm : ∀ f ∈ fields, ∀ v a, f.put v (h a) = h (f.put v a))
    (values : List String) (a : α) : write fields values (h a) = h (write fields values a) := by
  induction fields generalizing values a with
  | nil => rfl
  | cons f fields ih =>
    obtain ⟨hf, hfields⟩ := List.forall_mem_cons.1 hcomm
    cases values with
    | nil => rfl
    | cons v values =>
      calc write (f :: fields) (v :: values) (h a)
          = write fields values (f.put v (h a)) := rfl
        _ = write fields values (h (f.put v a)) := by rw [hf v a]
        _ = h (write (f :: fields) (v :: values) a) := ih hfields values _

end SecretField

/-! ## Words of an infrastructure -/

/-- The words among the options of an infrastructure. -/
structure Words where
  authMode : String
  compressionMode : String
  encryptionMode : String
  connectionType : String

/-- Words agree, each with its counterpart, but for the case of the letters A to Z. -/
structure Words.Agree (w v : Words) : Prop where
  authMode : eqIgnoringAsciiCase w.authMode v.authMode = true
  compressionMode : eqIgnoringAsciiCase w.compressionMode v.compressionMode = true
  encryptionMode : eqIgnoringAsciiCase w.encryptionMode v.encryptionMode = true
  connectionType : eqIgnoringAsciiCase w.connectionType v.connectionType = true

/-- Words that agree do so either way. -/
theorem Words.Agree.symm {w v : Words} (h : w.Agree v) : v.Agree w where
  authMode := by rw [eqIgnoringAsciiCase_comm]; exact h.authMode
  compressionMode := by rw [eqIgnoringAsciiCase_comm]; exact h.compressionMode
  encryptionMode := by rw [eqIgnoringAsciiCase_comm]; exact h.encryptionMode
  connectionType := by rw [eqIgnoringAsciiCase_comm]; exact h.connectionType

namespace Infrastructure

/-- The words of an infrastructure. -/
def words (i : Infrastructure) : Words where
  authMode := i.cluster.authMode
  compressionMode := i.compression.mode
  encryptionMode := i.encryption.mode
  connectionType := i.secretAgent.connectionType

/-- The infrastructure with other words. -/
def withWords (w : Words) (i : Infrastructure) : Infrastructure :=
  { i with
    cluster := { i.cluster with authMode := w.authMode }
    compression := { i.compression with mode := w.compressionMode }
    encryption := { i.encryption with mode := w.encryptionMode }
    secretAgent := { i.secretAgent with connectionType := w.connectionType } }

/-- An infrastructure that differs from another in the spelling of its words at most. -/
def Respelled (i j : Infrastructure) : Prop := ∃ w : Words, w.Agree i.words ∧ j = i.withWords w

variable {i j : Infrastructure}

/-- Either of two infrastructures that differ in spelling is the other one respelled. -/
theorem Respelled.symm (h : i.Respelled j) : j.Respelled i := by
  obtain ⟨w, hw, rfl⟩ := h
  exact ⟨i.words, hw.symm, rfl⟩

/-! ### Secrets -/

/-- No option that may hold a secret is a word, or one of the agent. -/
theorem words_put {f : SecretField Infrastructure} (hf : f ∈ secretFields) (v : String)
    (i : Infrastructure) :
    (f.put v i).words = i.words ∧ (f.put v i).secretAgent = i.secretAgent := by
  revert f
  simp only [secretFields, List.forall_mem_append, List.forall_mem_map, Cluster.secretFields,
    Encryption.secretFields, AwsS3.secretFields, GcpStorage.secretFields, AzureBlob.secretFields,
    List.forall_mem_cons, SecretField.within, words, and_self, List.not_mem_nil,
    false_implies, implies_true]

/-- To set an option that may hold a secret does not depend on the words. -/
theorem put_withWords {f : SecretField Infrastructure} (hf : f ∈ secretFields) (v : String)
    (w : Words) (i : Infrastructure) : f.put v (i.withWords w) = (f.put v i).withWords w := by
  revert f
  simp only [secretFields, List.forall_mem_append, List.forall_mem_map, Cluster.secretFields,
    Encryption.secretFields, AwsS3.secretFields, GcpStorage.secretFields, AzureBlob.secretFields,
    List.forall_mem_cons, SecretField.within, withWords, and_self, List.not_mem_nil,
    false_implies, implies_true]

/-- Once its references are replaced, an infrastructure has the words and the agent that it
had. -/
theorem words_of_resolve {resolver : SecretResolver} (h : i.resolve resolver = .ok j) :
    j.words = i.words ∧ j.secretAgent = i.secretAgent := by
  obtain ⟨-, rfl⟩ := resolve_eq_ok_iff.1 h
  exact ⟨SecretField.write_frame (fun _ hf v a => (words_put hf v a).1) _ i,
    SecretField.write_frame (fun _ hf v a => (words_put hf v a).2) _ i⟩

/-- With the same agent, the references are replaced alike under other spellings. -/
theorem Respelled.resolve (h : i.Respelled j) {resolver : SecretResolver} {k : Infrastructure}
    (hagent : j.secretAgent.config? = i.secretAgent.config?) (hk : i.resolve resolver = .ok k) :
    ∃ k', j.resolve resolver = .ok k' ∧ k.Respelled k' := by
  obtain ⟨w, hw, rfl⟩ := h
  have hpass : (i.withWords w).resolution resolver = i.resolution resolver :=
    congrArg (resolveSecrets · resolver (SecretField.read secretFields i)) hagent
  have hwords := (words_of_resolve hk).1
  obtain ⟨hnone, rfl⟩ := resolve_eq_ok_iff.1 hk
  refine ⟨(SecretField.write secretFields (i.resolution resolver).values i).withWords w, ?_, w, ?_,
    rfl⟩
  · rw [resolve_eq_ok_iff, hpass]
    exact ⟨hnone, SecretField.write_comm (fun _ hf v a => put_withWords hf v w a) _ i⟩
  · rw [hwords]
    exact hw

/-! ### Rules -/

/-- The rules behind those of an operation. -/
theorem checkRest_eq_ok_iff {op : Operation} : i.checkRest op = .ok () ↔
    i.compression.check = .ok () ∧ i.encryption.check = .ok () ∧ i.secretAgent.check = .ok () ∧
      i.stores.check op = .ok () := by
  simp only [checkRest, check_bind_eq_ok_iff]

/-- Under other spellings, the rules are met just if they were. -/
theorem Respelled.check_iff (h : i.Respelled j) (op : Operation) :
    (j.cluster.check = .ok () ↔ i.cluster.check = .ok ()) ∧
      (j.checkRest op = .ok () ↔ i.checkRest op = .ok ()) := by
  obtain ⟨w, hw, rfl⟩ := h
  refine ⟨Cluster.check_respelled hw.authMode, ?_⟩
  rw [checkRest_eq_ok_iff, checkRest_eq_ok_iff]
  exact and_congr (Compression.check_respelled hw.compressionMode)
    (and_congr (Encryption.check_respelled hw.encryptionMode)
      (and_congr (SecretAgent.check_respelled hw.connectionType) Iff.rfl))

/-- Two infrastructures are the same to the engine. -/
structure SameToEngine (i j : Infrastructure) : Prop where
  cluster : j.cluster.config = i.cluster.config
  compression : j.compression.policy? = i.compression.policy?
  encryption : j.encryption.policy? = i.encryption.policy?
  agent : j.secretAgent.config? = i.secretAgent.config?
  stores : j.stores = i.stores

/-- Where the rules are met, other spellings are the same to the engine. -/
theorem Respelled.sameToEngine (h : i.Respelled j) {op : Operation}
    (hcluster : i.cluster.check = .ok ()) (hrest : i.checkRest op = .ok ()) :
    i.SameToEngine j := by
  obtain ⟨w, hw, rfl⟩ := h
  obtain ⟨hcompression, hencryption, hagent, -⟩ := checkRest_eq_ok_iff.1 hrest
  exact {
    cluster := Cluster.config_respelled hcluster hw.authMode
    compression := Compression.policy?_respelled hcompression hw.compressionMode
    encryption := Encryption.policy?_respelled hencryption hw.encryptionMode
    agent := SecretAgent.config?_respelled hagent hw.connectionType
    stores := rfl }

/-- Where the rules are met after the references are replaced, other spellings have the same
agent. -/
theorem Respelled.agent_eq (h : i.Respelled j) {resolver : SecretResolver} {k : Infrastructure}
    {op : Operation} (hk : i.resolve resolver = .ok k) (hrest : k.checkRest op = .ok ()) :
    j.secretAgent.config? = i.secretAgent.config? := by
  obtain ⟨w, hw, rfl⟩ := h
  obtain ⟨-, -, hagent, -⟩ := checkRest_eq_ok_iff.1 hrest
  rw [(words_of_resolve hk).2] at hagent
  exact SecretAgent.config?_respelled hagent hw.connectionType

end Infrastructure

/-! ## Steps that succeed alike -/

/-- Two steps succeed together, and what is seen of their results is the same. -/
def SucceedAlike {ε α β : Type} (view : α → β) (x y : Except ε α) : Prop :=
  ((∃ a, x = .ok a) ↔ ∃ b, y = .ok b) ∧ ∀ a b, x = .ok a → y = .ok b → view b = view a

/-- Steps succeed alike if either of them succeeds where the other one does. -/
theorem SucceedAlike.of_imp {ε α β : Type} {view : α → β} {x y : Except ε α}
    (h : ∀ a, x = .ok a → ∃ b, y = .ok b ∧ view b = view a)
    (h' : ∀ b, y = .ok b → ∃ a, x = .ok a ∧ view a = view b) : SucceedAlike view x y := by
  refine ⟨⟨fun ⟨a, ha⟩ => (h a ha).imp fun _ h => h.1, fun ⟨b, hb⟩ => (h' b hb).imp fun _ h => h.1⟩,
    fun a b ha hb => ?_⟩
  obtain ⟨b', hb', hview⟩ := h a ha
  obtain rfl := Except.ok.inj (hb.symm.trans hb')
  exact hview

/-! ## Backups -/

namespace BackupService

variable {s : BackupService} {j : Infrastructure}

/-- The jobs of a backup are the same with another infrastructure that is the same to the
engine. -/
theorem job_congr (h : s.infrastructure.SameToEngine j) (m : Machine) :
    ({ s with infrastructure := j } : BackupService).job m = s.job m := by
  have hscan (g : Scan Settled) : scanConfig m j g = scanConfig m s.infrastructure g := by
    simp only [scanConfig, h.compression, h.encryption, h.agent]
  have hfeed (g : ChangeFeed Settled) : feedConfig m j g = feedConfig m s.infrastructure g := by
    simp only [feedConfig, h.compression, h.encryption, h.agent]
  have hconfigs : ({ s with infrastructure := j } : BackupService).configs m = s.configs m := by
    simp only [configs, hscan, hfeed]
  simp only [job, hconfigs, h.cluster, h.stores]
  rfl

/-- A backup that is completed is completed under other spellings as well, and has the same
jobs. -/
theorem complete_respelled {resolver : SecretResolver} (h : s.infrastructure.Respelled j)
    {t : BackupService} (ht : s.complete resolver = .ok t) :
    ∃ t', ({ s with infrastructure := j } : BackupService).complete resolver = .ok t' ∧
      (fun m => t'.job m) = fun m => t.job m := by
  obtain ⟨hscan, hfeed, hresolve, hcheck⟩ := of_complete_eq_ok ht
  obtain ⟨hkind, hcluster, hscanCheck, hfeedCheck, hrest⟩ := (check_eq_ok_iff t).1 hcheck
  obtain ⟨k, hk, hrespelled⟩ := h.resolve (h.agent_eq hresolve hrest) hresolve
  obtain ⟨hclusterIff, hrestIff⟩ := hrespelled.check_iff .backup
  have hcheck' : ({ t with infrastructure := k } : BackupService).check = .ok () :=
    (check_eq_ok_iff _).2 ⟨hkind, hclusterIff.2 hcluster, hscanCheck, hfeedCheck, hrestIff.2 hrest⟩
  refine ⟨{ t with infrastructure := k }, ?_, ?_⟩
  · rw [hscan, hfeed] at hcheck' ⊢
    exact complete_eq_ok hk hcheck'
  · exact funext (job_congr (hrespelled.sameToEngine hcluster hrest))

/-- A backup is completed under other spellings just if it is, with the same jobs. -/
theorem complete_alike (resolver : SecretResolver) (h : s.infrastructure.Respelled j) :
    SucceedAlike (fun t m => t.job m) (s.complete resolver)
      (({ s with infrastructure := j } : BackupService).complete resolver) :=
  .of_imp (fun _ => complete_respelled h)
    (fun _ => complete_respelled (s := { s with infrastructure := j }) h.symm)

end BackupService

/-! ## Restores -/

namespace RestoreService

variable {s : RestoreService} {j : Infrastructure}

/-- The job of a restore is the same with another infrastructure that is the same to the engine. -/
theorem job_congr (h : s.infrastructure.SameToEngine j) :
    ({ s with infrastructure := j } : RestoreService).job = s.job := by
  have hconfig : ({ s with infrastructure := j } : RestoreService).config = s.config := by
    simp only [config, h.compression, h.encryption, h.agent]
  simp only [job, hconfig, h.cluster, h.stores]

/-- A restore that is completed is completed under other spellings as well, and has the same
job. -/
theorem complete_respelled {resolver : SecretResolver} (h : s.infrastructure.Respelled j)
    {t : RestoreService} (ht : s.complete resolver = .ok t) :
    ∃ t', ({ s with infrastructure := j } : RestoreService).complete resolver = .ok t' ∧
      t'.job = t.job := by
  obtain ⟨hrestore, hresolve, hcheck⟩ := of_complete_eq_ok ht
  obtain ⟨hcluster, hrestoreCheck, hrest⟩ := (check_eq_ok_iff t).1 hcheck
  obtain ⟨k, hk, hrespelled⟩ := h.resolve (h.agent_eq hresolve hrest) hresolve
  obtain ⟨hclusterIff, hrestIff⟩ := hrespelled.check_iff .restore
  have hcheck' : ({ t with infrastructure := k } : RestoreService).check = .ok () :=
    (check_eq_ok_iff _).2 ⟨hclusterIff.2 hcluster, hrestoreCheck, hrestIff.2 hrest⟩
  refine ⟨{ t with infrastructure := k }, ?_, ?_⟩
  · rw [hrestore] at hcheck' ⊢
    exact complete_eq_ok hk hcheck'
  · exact job_congr (hrespelled.sameToEngine hcluster hrest)

/-- A restore is completed under other spellings just if it is, with the same job. -/
theorem complete_alike (resolver : SecretResolver) (h : s.infrastructure.Respelled j) :
    SucceedAlike job (s.complete resolver)
      (({ s with infrastructure := j } : RestoreService).complete resolver) :=
  .of_imp (fun _ => complete_respelled h)
    (fun _ => complete_respelled (s := { s with infrastructure := j }) h.symm)

end RestoreService

/-! ## Words of a layer -/

/-- The options of a layer that are words from a list. -/
inductive Word where
  | logLevel
  | authMode
  | compressionMode
  | encryptionMode
  | connectionType
  deriving DecidableEq, Repr

/-- The word as a layer sets it. -/
def Word.given (l : Layer) : Word → Option String
  | .logLevel => l.app.bind (·.logLevel)
  | .authMode => l.cluster.bind (·.authMode)
  | .compressionMode => l.compression.bind (·.mode)
  | .encryptionMode => l.encryption.bind (·.mode)
  | .connectionType => l.secretAgent.bind (·.connectionType)

/-- The layer with the words that it sets in other spellings. -/
def Layer.respell (f : Word → String → String) (l : Layer) : Layer :=
  { l with
    app := l.app.map fun g => { g with logLevel := g.logLevel.map (f .logLevel) }
    cluster := l.cluster.map fun g => { g with authMode := g.authMode.map (f .authMode) }
    compression := l.compression.map fun g => { g with mode := g.mode.map (f .compressionMode) }
    encryption := l.encryption.map fun g => { g with mode := g.mode.map (f .encryptionMode) }
    secretAgent := l.secretAgent.map fun g =>
      { g with connectionType := g.connectionType.map (f .connectionType) } }

/-- The spellings differ from the words in the case of the letters A to Z at most. -/
def KeepsLetters (f : Word → String → String) : Prop :=
  ∀ w text, eqIgnoringAsciiCase (f w text) text = true

variable {f : Word → String → String}

/-- The words of a layer with other spellings are those of the layer, spelled that way. -/
theorem Word.given_respell (w : Word) (l : Layer) :
    w.given (l.respell f) = (w.given l).map (f w) := by
  cases w with
  | logLevel => simp only [given, Layer.respell]; cases l.app <;> rfl
  | authMode => simp only [given, Layer.respell]; cases l.cluster <;> rfl
  | compressionMode => simp only [given, Layer.respell]; cases l.compression <;> rfl
  | encryptionMode => simp only [given, Layer.respell]; cases l.encryption <;> rfl
  | connectionType => simp only [given, Layer.respell]; cases l.secretAgent <;> rfl

/-- A word that a layer sets agrees with its other spelling, and so does what is settled of it. -/
theorem Word.agree_respell (hf : KeepsLetters f) (w : Word) (l : Layer) (value : String) :
    eqIgnoringAsciiCase ((w.given (l.respell f)).getD value) ((w.given l).getD value) = true := by
  rw [given_respell]
  cases w.given l with
  | none => exact eqIgnoringAsciiCase_iff.2 rfl
  | some text => exact hf w text

namespace Infrastructure

variable {d : Defaults} {l : Layer}

/-- The words that are settled are those of the layer, over the built-in ones. -/
theorem words_ofLayer : (ofLayer d l).words = {
    authMode := (Word.authMode.given l).getD d.cluster.authMode
    compressionMode := (Word.compressionMode.given l).getD d.compression.mode
    encryptionMode := (Word.encryptionMode.given l).getD d.encryption.mode
    connectionType := (Word.connectionType.given l).getD d.secretAgent.connectionType } := by
  simp only [words, ofLayer, Word.given, Words.mk.injEq]
  exact ⟨by cases l.cluster <;> rfl, by cases l.compression <;> rfl, by cases l.encryption <;> rfl,
    by cases l.secretAgent <;> rfl⟩

/-- Where the words of a layer have other spellings, so have those that are settled. -/
theorem respelled_ofLayer (hf : KeepsLetters f) :
    (ofLayer d l).Respelled (ofLayer d (l.respell f)) := by
  refine ⟨(ofLayer d (l.respell f)).words, ?_, ?_⟩
  · rw [words_ofLayer, words_ofLayer]
    exact {
      authMode := Word.agree_respell hf .authMode l _
      compressionMode := Word.agree_respell hf .compressionMode l _
      encryptionMode := Word.agree_respell hf .encryptionMode l _
      connectionType := Word.agree_respell hf .connectionType l _ }
  · rw [ofLayer, withWords, Infrastructure.mk.injEq]
    exact ⟨by dsimp only [words, ofLayer, Layer.respell]; cases l.cluster <;> rfl,
      by dsimp only [words, ofLayer, Layer.respell]; cases l.compression <;> rfl,
      by dsimp only [words, ofLayer, Layer.respell]; cases l.encryption <;> rfl,
      by dsimp only [words, ofLayer, Layer.respell]; cases l.secretAgent <;> rfl,
      rfl, rfl, rfl, rfl⟩

end Infrastructure

/-! ## Loading under other spellings -/

variable {d : Defaults} {resolver : SecretResolver} {path : Option String} {l : Layer}

namespace BackupService

/-- The backup of a layer with other spellings differs in the infrastructure only. -/
theorem ofLayer_respell : ofLayer d (l.respell f) =
    (ofLayer d l).map fun s =>
      { s with infrastructure := Infrastructure.ofLayer d (l.respell f) } := by
  have hscan : (l.respell f).scan = l.scan := rfl
  have hfeed : (l.respell f).changeFeed = l.changeFeed := rfl
  simp only [ofLayer, hscan, hfeed]
  cases l.changeFeed with
  | none => rfl
  | some feed => cases (l.scan.getD OptionGroup.unset).scanOnly <;> rfl

/-- A layer is loaded as a backup under other spellings just if it is, with the same jobs. -/
theorem load_respell (hf : KeepsLetters f) :
    SucceedAlike (fun s m => s.job m) (load d resolver l).result
      (load d resolver (l.respell f)).result := by
  have hrespelled := Infrastructure.respelled_ofLayer (d := d) (l := l) hf
  unfold load
  rw [ofLayer_respell]
  cases hs : ofLayer d l with
  | error v => exact .of_imp (fun _ h => absurd h nofun) (fun _ h => absurd h nofun)
  | ok s =>
    rw [← infrastructure_of_ofLayer hs] at hrespelled
    exact complete_alike resolver hrespelled

end BackupService

namespace RestoreService

/-- A layer is loaded as a restore under other spellings just if it is, with the same job. -/
theorem load_respell (hf : KeepsLetters f) :
    SucceedAlike job (load d resolver l).result (load d resolver (l.respell f)).result := by
  have hother : ofLayer d (l.respell f) =
      { ofLayer d l with infrastructure := Infrastructure.ofLayer d (l.respell f) } := rfl
  unfold load
  rw [hother]
  exact complete_alike resolver (Infrastructure.respelled_ofLayer hf)

end RestoreService

namespace Session

/-- A session of a layer has the options that are settled, if they meet their rule. -/
theorem ofLayer_eq_ok_iff {session : Session} : ofLayer d path l = .ok session ↔
    (settleSection l.app d.app).check = .ok () ∧
      { options := settleSection l.app d.app, configPath := path.getD "" } = session := by
  simp only [ofLayer, settle, bind_eq_ok_iff, pure_eq_ok_iff]
  exact ⟨fun ⟨(), h⟩ => h, fun h => ⟨(), h⟩⟩

/-- Another spelling of the level filters the same lines. -/
theorem logFilter_respelled (session : Session) (h : session.options.check = .ok ())
    {text : String} (htext : eqIgnoringAsciiCase text session.options.logLevel = true) :
    ({ session with options := { session.options with logLevel := text } } : Session).logFilter =
      session.logFilter := by
  have hempty : (text != "") = (session.options.logLevel != "") :=
    congrArg not (beq_empty_congr htext)
  have hlevel := lowerCase_keepsAgreement text _ (App.isAscii_of_check h) htext
  simp only [logFilter, hempty, hlevel]

/-- The level that is settled is that of the layer, over the built-in one. -/
theorem logLevel_settleSection :
    (settleSection l.app d.app).logLevel = (Word.logLevel.given l).getD d.app.logLevel := by
  dsimp only [Word.given]
  cases l.app <;> rfl

/-- Under other spellings, the options of the program are settled but for the level. -/
theorem settleSection_respell : settleSection (l.respell f).app d.app =
    { settleSection l.app d.app with
      logLevel := (Word.logLevel.given (l.respell f)).getD d.app.logLevel } := by
  dsimp only [Layer.respell, Word.given]
  cases l.app <;> rfl

/-- A layer has a session under other spellings just if it has one, and its log is filtered
alike. -/
theorem ofLayer_respell (hf : KeepsLetters f) :
    SucceedAlike logFilter (ofLayer d path l) (ofLayer d path (l.respell f)) := by
  have hagree := Word.agree_respell hf .logLevel l d.app.logLevel
  rw [← logLevel_settleSection (l := l)] at hagree
  simp only [SucceedAlike, ofLayer_eq_ok_iff, settleSection_respell]
  -- what the options are otherwise does not matter
  generalize settleSection l.app d.app = g at hagree ⊢
  generalize (Word.logLevel.given (l.respell f)).getD d.app.logLevel = text at hagree ⊢
  rw [App.check_respelled hagree]
  refine ⟨⟨fun ⟨_, h, _⟩ => ⟨_, h, rfl⟩, fun ⟨_, h, _⟩ => ⟨_, h, rfl⟩⟩, ?_⟩
  rintro session session' ⟨hcheck, rfl⟩ ⟨-, rfl⟩
  exact logFilter_respelled ⟨g, path.getD ""⟩ hcheck hagree

end Session

end BackupControl
