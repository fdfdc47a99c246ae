import TextVectors.Proofs.Embedding.Batching
import TextVectors.Proofs.Embedding.Cover
import TextVectors.Proofs.Sparse.SingleRow
import TextVectors.Proofs.Sparse.Valid

namespace TextVectors

/-! Texts that fit into one row are embedded alike with windows and without.

The one window of a short text is its row.  What was kept for merging, and pruned and cut only
then, is what would have been kept at once.
-/

open Inference

namespace SparseEmbedder

variable {embedder : SparseEmbedder} {tokenizer : Tokenizer} {text : String}
variable {compute : NamedBuffers → Nat → Float32} {encoding : Encoding} {row : Window}

/-- The row of an encoding. -/
def rowOf (embedder : SparseEmbedder) (encoding : Encoding) : Window :=
  .ofEncoding embedder.binding.sequenceLength embedder.binding.usesTokenTypes encoding

/-- What is handed over for a row on its own. -/
def handedFor (embedder : SparseEmbedder) (compute : NamedBuffers → Nat → Float32)
    (row : Window) : NamedBuffers :=
  (embedder.boundModel compute).named (.ofRows embedder.binding.usesTokenTypes [row])

/-- What shows of embedding a row on its own. -/
def rowAnswer (embedder : SparseEmbedder) (compute : NamedBuffers → Nat → Float32)
    (row : Window) : Transcript SparseVector := do
  let (output, mask) ← (embedder.boundModel compute).ranRows [row]
  let _ ← .ofExcept ((Sparse.check embedder.params output.length mask.length 1
    embedder.binding.sequenceLength embedder.vocabularySize).mapError .invalidInput)
  return Sparse.ofDense (Sparse.denseRow embedder.params embedder.binding.sequenceLength
    embedder.vocabularySize output mask) embedder.params.threshold embedder.params.topK

theorem fixedAnswer_row (encoded : tokenizer.encode text = .ok encoding)
    (checked : encoding.check = .ok ()) :
    embedder.fixedAnswer tokenizer compute [text] =
      embedder.rowAnswer compute (embedder.rowOf encoding) >>= fun vector => pure [vector] := by
  have one : encodingsOf tokenizer 0 [text] = .ok [encoding] := by
    rw [encodingsOf, encoded]
    rfl
  have all : ∀ other ∈ [encoding], other.check = .ok () := by simpa using checked
  have ran : (embedder.boundModel compute).ran [text].length (writeEncodings [text].length
        (embedder.boundModel compute).binding.sequenceLength [encoding]) id =
      (embedder.boundModel compute).ranRows [embedder.rowOf encoding] :=
    (embedder.boundModel compute).ran_encodings id all
  unfold fixedAnswer rowAnswer BoundModel.rowsAnswer
  rw [one, Transcript.ofExcept_ok_bind, ran, bind_assoc]
  refine congrArg _ (funext fun shown => ?_)
  obtain ⟨output, mask⟩ := shown
  dsimp only [List.length_singleton]
  rw [sparsifyRows, Sparse.sparsify_one]
  cases Sparse.check embedder.params output.length mask.length 1 embedder.binding.sequenceLength
    embedder.vocabularySize <;> rfl

/-- The limits of a batch do not depend on the threshold, as long as it is usable. -/
theorem check_unpruned (usable : embedder.params.threshold ≥ Binary32.zero)
    (output mask batch sequenceLength vocabulary : Nat) :
    Sparse.check { embedder.params with threshold := Binary32.zero, topK := 0 } output mask batch
        sequenceLength vocabulary =
      Sparse.check embedder.params output mask batch sequenceLength vocabulary := by
  unfold Sparse.check Sparse.checkThreshold
  rw [if_pos usable, if_pos Binary32.zero_le_zero]

theorem windowsAnswer_row (compute : NamedBuffers → Nat → Float32)
    (usable : embedder.params.threshold ≥ Binary32.zero)
    (strided : ¬ (embedder.stride = 0 ∨ embedder.stride > embedder.binding.sequenceLength))
    (encoded : tokenizer.encode text = .ok encoding) (checked : encoding.check = .ok ())
    (short : encoding.ids.length ≤ embedder.binding.sequenceLength) (position : Nat) :
    embedder.windowsAnswer tokenizer compute position text =
      embedder.rowAnswer compute (embedder.rowOf encoding) := by
  have one : embedder.windowsFor tokenizer text = .ok [embedder.rowOf encoding] := by
    rw [windowsFor, encoded]
    simp only [Except.mapError, bind, Except.bind,
      Window.split_short strided checked short]
    rfl
  have fits : ∀ row ∈ [embedder.rowOf encoding],
      row.Fits embedder.binding.sequenceLength embedder.binding.usesTokenTypes :=
    fun row member => List.mem_singleton.mp member ▸ Window.ofEncoding_fits _ _ encoding
  have ran := (embedder.boundModel compute).ran_windows
    (.context s!"failed to prepare sliding window tensors for document {position}") fits
  unfold windowsAnswer rowAnswer
  rw [one, Except.mapError, Transcript.ofExcept_ok_bind]
  refine (congrArg (· >>= _) ran).trans ?_
  refine congrArg _ (funext fun shown => ?_)
  obtain ⟨output, mask⟩ := shown
  dsimp only [List.length_singleton]
  rw [Sparse.sparsify_one, check_unpruned usable]
  cases Sparse.check embedder.params output.length mask.length 1 embedder.binding.sequenceLength
    embedder.vocabularySize with
  | error fault => rfl
  | ok _ =>
      have merged := Sparse.mergeWindows_one usable (Sparse.denseRow embedder.params
        embedder.binding.sequenceLength embedder.vocabularySize output mask) embedder.params.topK
      refine (Transcript.ofExcept_ok_bind _ _).trans ?_
      change Transcript.ofExcept ((Sparse.mergeWindows [Sparse.ofDense (Sparse.denseRow
        embedder.params embedder.binding.sequenceLength embedder.vocabularySize output mask)
          Binary32.zero 0] embedder.params.threshold embedder.params.topK).mapError _) = _
      rw [merged]
      rfl

/-- Rows on their own all fail before they are handed over, or all right after it, or all of them
succeed. -/
theorem rowAnswer_alike (embedder : SparseEmbedder) (compute : NamedBuffers → Nat → Float32) :
    (∃ error, ∀ encoding handed,
      embedder.rowAnswer compute (embedder.rowOf encoding) handed = .error error handed) ∨
    (∃ error, ∀ encoding handed,
      embedder.rowAnswer compute (embedder.rowOf encoding) handed =
        .error error (embedder.handedFor compute (embedder.rowOf encoding) :: handed)) ∨
    ∃ vector : Encoding → SparseVector, ∀ encoding handed,
      embedder.rowAnswer compute (embedder.rowOf encoding) handed =
        .ok (vector encoding) (embedder.handedFor compute (embedder.rowOf encoding) :: handed) := by
  cases opened : (embedder.boundModel compute).opened 1 with
  | error error =>
      refine .inl ⟨error, fun encoding handed => ?_⟩
      unfold rowAnswer BoundModel.ranRows
      rw [List.length_singleton, opened]
      rfl
  | ok sizes =>
      obtain ⟨tokens, outputs⟩ := sizes
      let output (encoding : Encoding) := (List.range outputs).map
        (compute (embedder.handedFor compute (embedder.rowOf encoding)))
      let mask (encoding : Encoding) := (TokenBuffers.ofRows embedder.binding.usesTokenTypes
        [embedder.rowOf encoding]).mask
      have whole (encoding : Encoding) : (output encoding).length = outputs := by simp [output]
      have masked (encoding : Encoding) :
          (mask encoding).length = embedder.binding.sequenceLength := by
        have fits := Window.ofEncoding_fits embedder.binding.sequenceLength
          embedder.binding.usesTokenTypes encoding
        simpa [mask, rowOf, TokenBuffers.ofRows] using fits.mask
      have ran (encoding : Encoding) (handed : List NamedBuffers) :
          (embedder.boundModel compute).ranRows [embedder.rowOf encoding] handed =
            .ok (output encoding, mask encoding)
              (embedder.handedFor compute (embedder.rowOf encoding) :: handed) := by
        rw [BoundModel.ranRows, List.length_singleton, opened]
        rfl
      cases passed : Sparse.check embedder.params outputs embedder.binding.sequenceLength 1
          embedder.binding.sequenceLength embedder.vocabularySize with
      | error fault =>
          refine .inr (.inl ⟨.invalidInput fault, fun encoding handed => ?_⟩)
          rw [rowAnswer, Transcript.bind_ok (ran encoding handed)]
          dsimp only
          rw [whole, masked, passed]
          rfl
      | ok _ =>
          refine .inr (.inr ⟨fun encoding => Sparse.ofDense (Sparse.denseRow embedder.params
            embedder.binding.sequenceLength embedder.vocabularySize (output encoding)
              (mask encoding)) embedder.params.threshold embedder.params.topK,
            fun encoding handed => ?_⟩)
          rw [rowAnswer, Transcript.bind_ok (ran encoding handed)]
          dsimp only
          rw [whole, masked, passed]
          rfl

end SparseEmbedder

namespace Transcript

variable {α β : Type} {each : α → Transcript β} {handed after : List NamedBuffers}

theorem mapM_ok {value : α → β} {hand : α → NamedBuffers} {values : List α}
    (succeeds : ∀ member ∈ values, ∀ handed,
      each member handed = .ok (value member) (hand member :: handed))
    (handed : List NamedBuffers) :
    values.mapM each handed =
      .ok (values.map value) ((values.map hand).reverse ++ handed) := by
  induction values generalizing handed with
  | nil => rfl
  | cons first rest ih =>
      have others := ih fun member inside => succeeds member (List.mem_cons_of_mem _ inside)
      rw [List.mapM_cons, bind_ok (succeeds first List.mem_cons_self handed),
        bind_ok (others (hand first :: handed))]
      simp [pure, EStateM.pure]

theorem mapM_error {first : α} {rest : List α} {error : EmbeddingError}
    (failed : each first handed = .error error after) :
    (first :: rest).mapM each handed = .error error after := by
  rw [List.mapM_cons]
  change EStateM.bind (each first) _ handed = _
  rw [EStateM.bind, failed]

theorem ends_error {shown : Transcript α} {error : EmbeddingError} {newest : List NamedBuffers}
    (ended : shown [] = .error error newest) :
    shown.result = .error error ∧ shown.handed = newest.reverse := by
  unfold Transcript.result Transcript.handed
  rw [ended]
  exact ⟨rfl, rfl⟩

theorem ends_ofExcept {shown : Transcript α} {result : Except EmbeddingError α}
    {newest : List NamedBuffers} (ended : shown [] = Transcript.ofExcept result newest) :
    shown.result = result ∧ shown.handed = newest.reverse := by
  unfold Transcript.result Transcript.handed
  rw [ended]
  cases result <;> exact ⟨rfl, rfl⟩

end Transcript

theorem mapM_congr_members {ε α β : Type} {values : List α} {operation other : α → Except ε β}
    (same : ∀ member ∈ values, operation member = other member) :
    values.mapM operation = values.mapM other := by
  induction values with
  | nil => rfl
  | cons first rest ih =>
      rw [List.mapM_cons, List.mapM_cons, same first List.mem_cons_self,
        ih fun member inside => same member (List.mem_cons_of_mem _ inside)]

namespace Transcript

variable {ι : Type} {together : Transcript (List α)} {alone : ι → Transcript (List α)}

/-- Items are answered together as each of them is alone, and as long as nothing fails they are
handed over in the same way. -/
def Alike (together : Transcript (List α)) (alone : ι → Transcript (List α)) (items : List ι) :
    Prop :=
  together.result = items.mapM (fun item => (alone item).result.bind single) ∧
    together.handed <+: items.flatMap (fun item => (alone item).handed) ∧
    ∀ values, together.result = .ok values →
      together.handed = items.flatMap fun item => (alone item).handed

/-- What ends the first item for a reason that is common to all of them ends the batch. -/
theorem alike_of_error {error : EmbeddingError} {newest : List NamedBuffers} {first : ι}
    (rest : List ι) (batch : together [] = .error error newest)
    (one : alone first [] = .error error newest) : Alike together alone (first :: rest) := by
  obtain ⟨batchResult, batchHanded⟩ := ends_error batch
  obtain ⟨oneResult, oneHanded⟩ := ends_error one
  unfold Alike
  rw [batchResult, batchHanded, List.mapM_cons, oneResult, List.flatMap_cons, oneHanded]
  exact ⟨rfl, List.prefix_append _ _, fun _ absurd => by cases absurd⟩

theorem alike_of_each {items : List ι} {finish : β → Except EmbeddingError α} {part : ι → β}
    {hand : ι → NamedBuffers}
    (batch : together [] = Transcript.ofExcept ((items.map part).mapM finish)
      (items.map hand).reverse)
    (ones : ∀ item ∈ items, alone item [] =
      Transcript.ofExcept ((finish (part item)).map fun value => [value]) [hand item]) :
    Alike together alone items := by
  obtain ⟨batchResult, batchHanded⟩ := ends_ofExcept batch
  have handedAll : together.handed = items.flatMap fun item => (alone item).handed := by
    rw [batchHanded, List.flatMap_congr fun item inside => (ends_ofExcept (ones item inside)).2,
      List.reverse_reverse]
    exact List.map_eq_flatMap
  refine ⟨?_, handedAll ▸ List.prefix_refl _, fun _ _ => handedAll⟩
  rw [batchResult, List.mapM_map]
  apply mapM_congr_members
  intro item inside
  rw [(ends_ofExcept (ones item inside)).1, Function.comp_apply]
  cases finish (part item) with
  | error error => rfl
  | ok value => rfl

end Transcript

namespace SparseEmbedder

/-- A document that is encoded in no more tokens than fit into a row, and passes the checks. -/
def Short (preProcessor : Option PreProcessor) (length : Nat) (tokenizer : Tokenizer)
    (document : String) (encoding : Encoding) : Prop :=
  ∃ text, changedBy preProcessor document = some text ∧ tokenizer.encode text = .ok encoding ∧
    encoding.check = .ok () ∧ encoding.ids.length ≤ length

variable {embedder : SparseEmbedder} {tokenizer : Tokenizer} {documents : List String}
variable {compute : NamedBuffers → Nat → Float32} {environment : Environment}
variable {texts : String → String} {encodings : String → Encoding}

theorem preprocessed_of_changed {preProcessor : Option PreProcessor}
    (changed : ∀ document ∈ documents, changedBy preProcessor document = some (texts document))
    (position : Nat) : preprocessed preProcessor position documents = .ok (documents.map texts) :=
  preprocessed_of_map ((List.map_congr_left changed).trans (List.map_map ..).symm) position

theorem slidingAnswer_rows
    (each : ∀ document ∈ documents, ∀ position,
      embedder.windowsAnswer tokenizer compute position (texts document) =
        embedder.rowAnswer compute (embedder.rowOf (encodings document)))
    (position : Nat) :
    embedder.slidingAnswer tokenizer compute position (documents.map texts) =
      documents.mapM fun document =>
        embedder.rowAnswer compute (embedder.rowOf (encodings document)) := by
  induction documents generalizing position with
  | nil => rfl
  | cons document rest ih =>
      rw [List.map_cons, slidingAnswer, each document List.mem_cons_self,
        ih fun other member => each other (List.mem_cons_of_mem _ member), List.mapM_cons]

/-- A vector as it is returned, with labels where they are wanted. -/
def finished (embedder : SparseEmbedder) (tokenizer : Tokenizer) (vector : SparseVector) :
    Except EmbeddingError SparseVector :=
  if embedder.returnLabels then labelled tokenizer vector else .ok vector

theorem mapM_finished (embedder : SparseEmbedder) (tokenizer : Tokenizer)
    (vectors : List SparseVector) :
    (if embedder.returnLabels then vectors.mapM (labelled tokenizer) else .ok vectors) =
      vectors.mapM (embedder.finished tokenizer) := by
  unfold finished
  split
  · rfl
  · induction vectors with
    | nil => rfl
    | cons vector rest ih =>
        rw [List.mapM_cons, ← ih]
        rfl

/-- What shows of embedding documents. -/
def answer (embedder : SparseEmbedder) (tokenizer : Tokenizer)
    (compute : NamedBuffers → Nat → Float32) (environment : Environment)
    (documents : List String) : Transcript (List SparseVector) :=
  EmbedderKind.answered environment documents (embedder.shown tokenizer compute documents)

theorem answer_sliding (environment : Environment) (sliding : embedder.stride > 0)
    (nonempty : documents ≠ [])
    (changed : ∀ document ∈ documents,
      changedBy embedder.preProcessor document = some (texts document))
    (each : ∀ document ∈ documents, ∀ position,
      embedder.windowsAnswer tokenizer compute position (texts document) =
        embedder.rowAnswer compute (embedder.rowOf (encodings document))) :
    embedder.answer tokenizer compute environment documents = (do
      let _ ← Transcript.ofExcept (runtimeOf environment)
      let vectors ← documents.mapM fun document =>
        embedder.rowAnswer compute (embedder.rowOf (encodings document))
      Transcript.ofExcept (vectors.mapM (embedder.finished tokenizer))) := by
  have full : ¬ documents.isEmpty = true := by simpa using nonempty
  simp only [answer, EmbedderKind.answered, if_neg full, shown, preprocessed_of_changed changed 0,
    Transcript.ofExcept_ok_bind, plainAnswer, if_pos sliding, slidingAnswer_rows each 0,
    mapM_finished]

theorem answer_fixed (embedder : SparseEmbedder) (compute : NamedBuffers → Nat → Float32)
    (environment : Environment) {document text : String} {encoding : Encoding}
    (fixed : embedder.stride = 0)
    (changed : changedBy embedder.preProcessor document = some text)
    (encoded : tokenizer.encode text = .ok encoding) (checked : encoding.check = .ok ()) :
    embedder.answer tokenizer compute environment [document] = (do
      let _ ← Transcript.ofExcept (runtimeOf environment)
      let vector ← embedder.rowAnswer compute (embedder.rowOf encoding)
      Transcript.ofExcept ((embedder.finished tokenizer vector).map fun vector => [vector])) := by
  have unwindowed : ¬ embedder.stride > 0 := by omega
  have all : ∀ other ∈ [document],
      changedBy embedder.preProcessor other = some ((fun _ => text) other) := by
    simpa using changed
  have prepared : preprocessed embedder.preProcessor 0 [document] = .ok [text] :=
    preprocessed_of_changed all 0
  simp only [answer, EmbedderKind.answered, List.isEmpty_cons, Bool.false_eq_true, if_false, shown,
    prepared, Transcript.ofExcept_ok_bind, plainAnswer, if_neg unwindowed,
    fixedAnswer_row encoded checked, mapM_finished, bind_assoc, pure_bind]
  refine congrArg _ (funext fun _ => congrArg _ (funext fun vector => congrArg _ ?_))
  rw [List.mapM_cons]
  cases embedder.finished tokenizer vector <;> rfl

/-- The embedder without windows. -/
def unwindowed (embedder : SparseEmbedder) : SparseEmbedder :=
  { embedder with stride := 0 }

/-- Short documents are answered with windows as each of them is without. -/
theorem answers_short (compute : NamedBuffers → Nat → Float32) (environment : Environment)
    (sliding : embedder.stride > 0)
    (usable : embedder.params.threshold ≥ Binary32.zero)
    (strided : embedder.stride ≤ embedder.binding.sequenceLength)
    (short : ∀ document ∈ documents, Short embedder.preProcessor
      embedder.binding.sequenceLength tokenizer document (encodings document)) :
    let together := embedder.answer tokenizer compute environment documents
    let alone (document : String) :=
      embedder.unwindowed.answer tokenizer compute environment [document]
    Transcript.Alike together alone documents := by
  intro together alone
  cases documents with
  | nil => exact ⟨rfl, List.nil_prefix, fun _ _ => rfl⟩
  | cons first rest =>
  choose! texts changed encoded checked fits using short
  have answeredTogether : together = _ := answer_sliding environment sliding
    (List.cons_ne_nil first rest) changed fun document member position =>
      windowsAnswer_row compute usable (by omega) (encoded document member)
        (checked document member) (fits document member) position
  have answeredAlone (document : String) (member : document ∈ first :: rest) :
      alone document = _ :=
    answer_fixed embedder.unwindowed compute environment rfl
      (changed document member) (encoded document member) (checked document member)
  have member : first ∈ first :: rest := List.mem_cons_self
  cases running : runtimeOf environment with
  | error error =>
      have batch : together [] = .error error [] := by
        rw [answeredTogether, running]
        rfl
      have one : alone first [] = .error error [] := by
        rw [answeredAlone first member, running]
        rfl
      exact Transcript.alike_of_error rest batch one
  | ok runtime =>
      rw [running, Transcript.ofExcept_ok_bind] at answeredTogether
      simp only [running, Transcript.ofExcept_ok_bind] at answeredAlone
      rcases embedder.rowAnswer_alike compute with
        ⟨error, failed⟩ | ⟨error, failed⟩ | ⟨vector, succeeds⟩
      · apply Transcript.alike_of_error rest
        · rw [answeredTogether]
          exact Transcript.error_bind (Transcript.mapM_error (failed _ _))
        · rw [answeredAlone first member]
          exact Transcript.error_bind (failed _ _)
      · apply Transcript.alike_of_error rest
        · rw [answeredTogether]
          exact Transcript.error_bind (Transcript.mapM_error (failed _ _))
        · rw [answeredAlone first member]
          exact Transcript.error_bind (failed _ _)
      · apply Transcript.alike_of_each
        · rw [answeredTogether]
          have mapped := Transcript.mapM_ok
            (fun document (_ : document ∈ first :: rest) => succeeds (encodings document)) []
          rw [List.append_nil] at mapped
          exact Transcript.bind_ok mapped
        · intro document inside
          rw [answeredAlone document inside]
          exact Transcript.bind_ok (succeeds _ [])

/-- For a short document on its own nothing but its row is handed over. -/
theorem handed_fixed (embedder : SparseEmbedder) {document text : String} {encoding : Encoding}
    (fixed : embedder.stride = 0)
    (changed : changedBy embedder.preProcessor document = some text)
    (encoded : tokenizer.encode text = .ok encoding) (checked : encoding.check = .ok ()) :
    ∀ buffers ∈ (embedder.answer tokenizer compute environment [document]).handed,
      buffers = embedder.handedFor compute (embedder.rowOf encoding) := by
  have only (result : Except EmbeddingError (List SparseVector)) (newest : List NamedBuffers)
      (ended : embedder.answer tokenizer compute environment [document] [] =
        Transcript.ofExcept result newest)
      (rows : ∀ buffers ∈ newest,
        buffers = embedder.handedFor compute (embedder.rowOf encoding)) :
      ∀ buffers ∈ (embedder.answer tokenizer compute environment [document]).handed,
        buffers = embedder.handedFor compute (embedder.rowOf encoding) := by
    rw [(Transcript.ends_ofExcept ended).2]
    exact fun buffers member => rows buffers (List.mem_reverse.mp member)
  have answered := answer_fixed embedder compute environment fixed changed encoded checked
  cases running : runtimeOf environment with
  | error error =>
      rw [running] at answered
      exact only (.error error) [] (congrFun answered [])
        fun _ absurd => by cases absurd
  | ok runtime =>
      rw [running, Transcript.ofExcept_ok_bind] at answered
      rcases embedder.rowAnswer_alike compute with
        ⟨error, failed⟩ | ⟨error, failed⟩ | ⟨vector, succeeds⟩
      · exact only (.error error) _
          ((congrFun answered []).trans (Transcript.error_bind (failed encoding [])))
          fun _ absurd => by cases absurd
      · exact only (.error error) _
          ((congrFun answered []).trans (Transcript.error_bind (failed encoding [])))
          fun _ member => List.mem_singleton.mp member
      · exact only _ _ ((congrFun answered []).trans (Transcript.bind_ok (succeeds encoding [])))
          fun _ member => List.mem_singleton.mp member

/-- Two openings that only differ in the use of windows. -/
theorem eq_unwindowed {modelPath : String} {config : SparseConfig} {stride : Nat}
    {host other : Host} {engine after later last : Engine} {fresh freshToo : SparseEmbedder}
    (opens : withTokenizer host modelPath tokenizer { config with stride } engine =
      .ok fresh after)
    (opensToo : withTokenizer other modelPath tokenizer { config with stride := 0 } later =
      .ok freshToo last) : freshToo = fresh.unwindowed := by
  obtain ⟨-, -, settled, sessions, settles, made, rfl⟩ := EmbedderKind.withTokenizer_ok opens
  obtain ⟨-, -, settledToo, sessionsToo, settlesToo, madeToo, rfl⟩ :=
    EmbedderKind.withTokenizer_ok opensToo
  obtain ⟨size, derived, rfl⟩ := settle_ok settles
  obtain ⟨sizeToo, derivedToo, rfl⟩ := settle_ok settlesToo
  obtain rfl := Except.ok.inj (derived.symm.trans derivedToo)
  obtain rfl := Except.ok.inj (made.symm.trans madeToo)
  rfl

end SparseEmbedder

/-- Documents with no more tokens than a row get from an embedder with windows the vectors that
queries get from the same embedder without windows, and the runs are handed the same rows. -/
theorem short_texts_alike (modelPath : String) (tokenizer : Tokenizer) (config : SparseConfig)
    (stride : Nat) (compute : NamedBuffers → Nat → Float32) (host : Host)
    (environment : Environment) (documents : List String) (encodings : String → Encoding)
    (windowed unwindowed : SparseEmbedder) (engine later : Engine) (sliding : 0 < stride)
    (inUse : SparseEmbedder.InUse modelPath tokenizer { config with stride } windowed engine)
    (inUseToo : SparseEmbedder.InUse modelPath tokenizer { config with stride := 0 } unwindowed
      later)
    (present : host.files.present modelPath = true)
    (obliging : engine.Obliging modelPath compute) (obligingToo : later.Obliging modelPath compute)
    (short : ∀ document ∈ documents, SparseEmbedder.Short config.preProcessor
      config.model.sequenceLength tokenizer document (encodings document)) :
    let together := windowed.embedDocuments host environment documents engine
    let alone (document : String) := unwindowed.embedQuery host environment document later
    together.1.1 = documents.mapM (fun document => (alone document).1.1) ∧
      (together.2.handedSince engine <+:
        documents.flatMap fun document => (alone document).2.handedSince later) ∧
      (∀ vectors, together.1.1 = .ok vectors → together.2.handedSince engine =
        documents.flatMap fun document => (alone document).2.handedSince later) ∧
      ∀ document ∈ documents, ∀ buffers ∈ (alone document).2.handedSince later,
        buffers = windowed.handedFor compute (windowed.rowOf (encodings document)) := by
  intro together alone
  obtain ⟨opener, before, fresh, after, opens⟩ := inUse.opening
  obtain ⟨openerToo, beforeToo, freshToo, afterToo, opensToo⟩ := inUseToo.opening
  have serving := inUse.serving opens SparseEmbedder.work_shows compute
  have servingToo := inUseToo.serving opensToo SparseEmbedder.work_shows compute
  rw [SparseEmbedder.eq_unwindowed opens opensToo] at servingToo
  have path : fresh.binding.modelPath = modelPath := EmbedderKind.modelPath_of_opened opens
  obtain ⟨-, valid, settled, sessions, settles, -, configured⟩ :=
    EmbedderKind.withTokenizer_ok opens
  obtain ⟨usable, -, strided⟩ := SparseEmbedder.usable_of_valid valid
  obtain ⟨size, -, rfl⟩ := SparseEmbedder.settle_ok settles
  have length : fresh.binding.sequenceLength = config.model.sequenceLength := by
    rw [configured]; rfl
  have threshold : fresh.params.threshold = config.threshold := by rw [configured]; rfl
  have strideSame : fresh.stride = stride := by rw [configured]; rfl
  have preProcessor : fresh.preProcessor = config.preProcessor := by rw [configured]; rfl
  clear configured
  rw [← threshold] at usable
  rw [← length] at strided short
  rw [← strideSame] at sliding strided
  rw [← preProcessor] at short
  rw [← path] at present obliging obligingToo
  have shown : together.1.1 = (fresh.answer tokenizer compute environment documents).result ∧
      together.2.handedSince engine =
        (fresh.answer tokenizer compute environment documents).handed :=
    serving.answers SparseEmbedder.work_shows present obliging environment documents
  have shownToo (document : String) :=
    servingToo.answers SparseEmbedder.work_shows present obligingToo environment [document]
  have answered := SparseEmbedder.answers_short compute environment sliding usable strided short
  dsimp only at shownToo answered
  obtain ⟨results, newer, whole⟩ := answered
  have aloneResult (document : String) : (alone document).1.1 =
      (fresh.unwindowed.answer tokenizer compute environment [document]).result.bind single :=
    congrArg (·.bind single) (shownToo document).1
  have aloneHanded (document : String) : (alone document).2.handedSince later =
      (fresh.unwindowed.answer tokenizer compute environment [document]).handed :=
    (shownToo document).2
  simp only [aloneResult, aloneHanded]
  refine ⟨shown.1.trans results, ?_, ?_, ?_⟩
  · rw [shown.2]
    exact newer
  · intro vectors succeeded
    rw [shown.2]
    exact whole vectors (shown.1.symm.trans succeeded)
  · intro document member buffers handed
    obtain ⟨text, changed, encoded, checked, -⟩ := short document member
    obtain ⟨memory, same⟩ := serving.same
    rw [same]
    exact fresh.unwindowed.handed_fixed rfl changed encoded checked
      buffers handed

section Trial

def windowedConfig : SparseConfig :=
  { echoConfig with stride := 2 }

def windowedSparse : SparseEmbedder :=
  .configured "@/model.onnx" trialTokenizer windowedConfig 2 ⟨8, [], []⟩

def windowedEntries : (Except EmbeddingError (List SparseVector) × SparseEmbedder) × Engine :=
  windowedSparse.embedDocuments trialHost trialEnvironment ["one two", ""] echoEngine

/-- A short text and one without tokens. -/
theorem short_and_empty_text :
    windowedEntries.1.1 = .ok [echoEntry 3, ⟨[], [], none⟩] ∧
      (windowedEntries.2.handedSince echoEngine).map firstIds = [[3, 3, 0, 0], [0, 0, 0, 0]] ∧
      windowedEntries.1.1 = ["one two", ""].mapM (fun text =>
        (echoSparse.embedQuery trialHost trialEnvironment text echoEngine).1.1) ∧
      windowedEntries.2.handedSince echoEngine =
        ["one two", ""].flatMap fun text => (echoSparse.embedQuery trialHost trialEnvironment text
          echoEngine).2.handedSince echoEngine := by
  have opening (config : SparseConfig) (embedder : SparseEmbedder) {after : Engine}
      (opened : SparseEmbedder.withTokenizer trialHost "@/model.onnx" trialTokenizer config
        echoEngine = .ok embedder after) (nothing : after.history = []) :
      SparseEmbedder.InUse "@/model.onnx" trialTokenizer config embedder echoEngine :=
    .elsewhere (.opened opened)
      (show echoEngine.history = [] ++ after.history by rw [nothing]; rfl)
  have short : ∀ text ∈ ["one two", ""], SparseEmbedder.Short echoConfig.preProcessor
      echoConfig.model.sequenceLength trialTokenizer text
        (Scripted.Tokenizer.encodeWords text) := by
    simp only [List.forall_mem_cons, List.not_mem_nil, false_imp_iff, implies_true, and_true]
    exact ⟨⟨_, rfl, rfl, rfl, by decide +kernel⟩, ⟨_, rfl, rfl, rfl, by decide +kernel⟩⟩
  obtain ⟨results, -, whole, -⟩ := short_texts_alike "@/model.onnx" trialTokenizer echoConfig 2
    echoed trialHost trialEnvironment ["one two", ""] Scripted.Tokenizer.encodeWords windowedSparse
    echoSparse echoEngine echoEngine (by decide) (opening _ windowedSparse rfl rfl)
    (opening _ echoSparse rfl rfl) (by decide +kernel) (echo_obliging echoEngine rfl)
    (echo_obliging echoEngine rfl) short
  have found : windowedEntries.1.1 = .ok [echoEntry 3, ⟨[], [], none⟩] :=
    ok_of_toOption (by decide +kernel)
  exact ⟨found, by decide +kernel, results, whole _ found⟩

end Trial

end TextVectors
