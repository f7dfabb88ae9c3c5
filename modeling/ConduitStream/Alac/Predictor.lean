import ConduitStream.Alac.RiceDecode
import ConduitStream.Foundations.AdaptivePrediction

/-! # The samples of a channel (`predictor_decompress_fir_adapt` in `alac.c`)

The residuals of a channel are the errors of a prediction. The first sample is sent as it is; behind it
the prediction is 0, the last sample, or a linear form in the last samples, whose coefficients follow the
signs of the errors.

The numbers wrap: `int` in sums and products, `int16_t` in the table of coefficients, and
`readsamplesize` bits in what is written. -/

namespace ConduitStream

namespace Alac

/-! ## The function of the source -/

/-- `SIGN_EXTENDED32`; shifts by 32 and more are undefined. -/
def signExtended32 (val : ℤ) (bits : ℕ) : Option ℤ :=
  if 1 ≤ bits ∧ bits ≤ 32 then some (int32 (val * 2 ^ (32 - bits)) >>> (32 - bits)) else none

/-- What is stored of a number in an `int16_t`. -/
def int16 (n : ℤ) : ℤ := n.bmod (2 ^ 16)

/-- The loops in which a sample differs by the error from the one in front of it, for these errors. -/
def deltaLoop (readsamplesize : ℕ) : ℤ → List ℤ → Option (List ℤ)
  | _, [] => some []
  | prevValue, error :: errors => do
      let val ← signExtended32 (int32 (prevValue + error)) readsamplesize
      return val :: (← deltaLoop readsamplesize val errors)

/-- The loop over `j`; `buffer` is `buffer_out` from the place on where the loop over `i` has it. -/
def firSum (buffer coefTable : List ℤ) : ℤ :=
  int32 ((List.range coefTable.length).map fun j =>
    (buffer.getD (coefTable.length - j) 0 - buffer.getD 0 0) * coefTable.getD j 0).sum

/-- The two loops over `predictor_num`, from `n - 1` on; `dir` is the sign of the error. -/
def adaptCoefs (buffer : List ℤ) (quantitization : ℕ) (dir : ℤ) : ℕ → ℤ → List ℤ → List ℤ
  | 0, _, coefTable => coefTable
  | n + 1, error, coefTable =>
      if 0 < dir * error then
        let val := int32 (buffer.getD 0 0 - buffer.getD (coefTable.length - n) 0)
        let sign := dir * val.sign
        let coefTable := coefTable.set n (int16 (coefTable.getD n 0 - sign))
        let val := int32 (val * sign)
        let error := int32 (error - val >>> quantitization * (coefTable.length - n))
        adaptCoefs buffer quantitization dir n error coefTable
      else coefTable

/-- The value predicted. -/
def firPrediction (buffer coefTable : List ℤ) (quantitization : ℕ) : ℤ :=
  int32 (2 ^ (quantitization - 1) + firSum buffer coefTable) >>> quantitization + buffer.getD 0 0

/-- The loop over `i`, for these errors. The shift by `quantitization - 1` is undefined for 0. -/
def firLoop (readsamplesize quantitization : ℕ) : List ℤ → List ℤ → List ℤ → Option (List ℤ)
  | _, _, [] => some []
  | buffer, coefTable, error :: errors =>
      if quantitization = 0 then none
      else do
        let outval ← signExtended32 (int32 (firPrediction buffer coefTable quantitization + error))
          readsamplesize
        let coefTable := adaptCoefs buffer quantitization error.sign coefTable.length error coefTable
        return outval :: (← firLoop readsamplesize quantitization (buffer.tail ++ [outval]) coefTable errors)

/-- `predictor_decompress_fir_adapt`: `buffer_out` afterwards. The table is as long as
`predictor_coef_num` says. -/
def predictorDecompressFirAdapt (errorBuffer bufferOut : List ℤ) (outputSize readsamplesize : ℕ)
    (coefTable : List ℤ) (quantitization : ℕ) : Option (List ℤ) := do
  -- the first sample always copies
  let first ← errorBuffer[0]?
  let num := coefTable.length
  if num = 0 then
    let rest ← loadRange errorBuffer 1 (outputSize - 1)
    storeRange bufferOut 0 (first :: rest)
  else if num = 0x1f then
    let errors ← loadRange errorBuffer 1 (outputSize - 1)
    let rest ← deltaLoop readsamplesize first errors
    storeRange bufferOut 0 (first :: rest)
  else do
    -- the warm-up samples
    let errors ← loadRange errorBuffer 1 num
    let warmup ← deltaLoop readsamplesize first errors
    -- the general case
    let errors ← loadRange errorBuffer (num + 1) (outputSize - (num + 1))
    let rest ← firLoop readsamplesize quantitization (first :: warmup) coefTable errors
    storeRange bufferOut 0 (first :: (warmup ++ rest))

/-! ## As a predictor -/

/-- What is written is taken modulo a power of 2. -/
theorem signExtended32_eq (val : ℤ) {bits : ℕ} (hpos : 1 ≤ bits) (hle : bits ≤ 32) :
    signExtended32 val bits = some (val.bmod (2 ^ bits)) := by
  have hsplit : (2 : ℕ) ^ 32 = 2 ^ (32 - bits) * 2 ^ bits := by
    rw [← Nat.pow_add, Nat.sub_add_cancel hle]
  have heven : 2 ∣ 2 ^ bits := dvd_pow_self 2 (by omega)
  have hpow := Nat.two_pow_pos (32 - bits)
  have hcut : int32 (val * 2 ^ (32 - bits)) = (2 ^ (32 - bits) : ℕ) * val.bmod (2 ^ bits) := by
    rw [← Int.mod_bmod_mul_of_pos val _ hpow heven, ← hsplit, int32, mul_comm, Nat.cast_pow, Nat.cast_two]
  rw [signExtended32, if_pos ⟨hpos, hle⟩, hcut, Int.shiftRight_eq_div_pow,
    Int.mul_ediv_cancel_left _ (by exact_mod_cast hpow.ne')]

/-- Sign extension of a stored value takes the residue of its number nearest to zero. -/
theorem signExtended32_int32 (val : ℤ) {bits : ℕ} (hpos : 1 ≤ bits) (hle : bits ≤ 32) :
    signExtended32 (int32 val) bits = some (val.bmod (2 ^ bits)) := by
  rw [signExtended32_eq _ hpos hle, int32, Int.bmod_bmod_of_dvd (Nat.pow_dvd_pow 2 hle)]

/-- The last sample is predicted. -/
def deltaPredictor (bits : ℕ) : Predictor ℤ where
  modulus := 2 ^ bits
  predict prev := prev
  update _ _ sample := sample

/-- A linear form in the samples in front is predicted, with coefficients that adapt. -/
def firPredictor (bits quantitization : ℕ) : Predictor (List ℤ × List ℤ) where
  modulus := 2 ^ bits
  predict s := firPrediction s.1 s.2 quantitization
  update s error sample :=
    (s.1.tail ++ [sample], adaptCoefs s.1 quantitization error.sign s.2.length error s.2)

section Residuals

variable {bits quantitization : ℕ} (hpos : 1 ≤ bits) (hle : bits ≤ 32)
include hpos hle

/-- The loop of the table length 31 restores a stream under the prediction by the previous sample. -/
theorem deltaLoop_eq (prev : ℤ) (errors : List ℤ) :
    deltaLoop bits prev errors = some ((deltaPredictor bits).restore prev errors) := by
  induction errors generalizing prev with
  | nil => rfl
  | cons e es ih =>
      rw [deltaLoop, signExtended32_int32 _ hpos hle, Option.bind_eq_bind, Option.bind_some, ih]
      rfl

/-- The loop over the adaptive coefficients restores a stream under the adaptive prediction. -/
theorem firLoop_eq (hquant : 1 ≤ quantitization) (buffer coefTable errors : List ℤ) :
    firLoop bits quantitization buffer coefTable errors
      = some ((firPredictor bits quantitization).restore (buffer, coefTable) errors) := by
  induction errors generalizing buffer coefTable with
  | nil => rfl
  | cons e es ih =>
      rw [firLoop, if_neg (by omega), signExtended32_int32 _ hpos hle, Option.bind_eq_bind,
        Option.bind_some]
      simp only [ih]
      rfl

omit hpos hle in
/-- The residuals of a channel. -/
def firResiduals (bits quantitization : ℕ) (coefTable : List ℤ) : List ℤ → List ℤ
  | [] => []
  | x :: xs =>
      if coefTable.length = 0 then x :: xs
      else if coefTable.length = 0x1f then x :: (deltaPredictor bits).residuals x xs
      else
        let warmup := xs.take coefTable.length
        x :: ((deltaPredictor bits).residuals x warmup ++
          (firPredictor bits quantitization).residuals (x :: warmup, coefTable)
            (xs.drop coefTable.length))

omit hpos hle in
/-- There is one residual for each sample. -/
@[simp] theorem length_firResiduals (coefTable xs : List ℤ) :
    (firResiduals bits quantitization coefTable xs).length = xs.length := by
  cases xs with
  | nil => rfl
  | cons x xs =>
      unfold firResiduals
      split_ifs
      · rfl
      · rw [List.length_cons, Predictor.length_residuals, List.length_cons]
      · rw [List.length_cons, List.length_append, Predictor.length_residuals,
          Predictor.length_residuals, ← List.length_append, List.take_append_drop, List.length_cons]

omit hpos hle in
/-- What is written in front of a buffer. -/
theorem storeRange_zero {buffer xs behind : List ℤ} (h : xs.length + behind.length ≤ buffer.length) :
    ∃ out, storeRange buffer 0 (xs ++ behind) = some out ∧ out.length = buffer.length ∧
      out.take xs.length = xs := by
  refine ⟨_, storeRange_of_le (by rw [List.length_append]; omega), ?_, ?_⟩
  · simp only [List.length_append, List.length_take, List.length_drop]
    omega
  · rw [List.take_zero, List.nil_append, List.append_assoc, List.take_left]

omit hpos hle in
/-- The residuals of samples in range are in range. -/
theorem bmod_of_mem_firResiduals {coefTable xs : List ℤ} (hxs : ∀ x ∈ xs, x.bmod (2 ^ bits) = x)
    {e : ℤ} (he : e ∈ firResiduals bits quantitization coefTable xs) : e.bmod (2 ^ bits) = e := by
  cases xs with
  | nil => cases he
  | cons x xs =>
      unfold firResiduals at he
      split_ifs at he
      · exact hxs e he
      · rcases List.mem_cons.mp he with rfl | he
        · exact hxs _ List.mem_cons_self
        · exact (deltaPredictor bits).inRange_of_mem_residuals he
      · rcases List.mem_cons.mp he with rfl | he
        · exact hxs _ List.mem_cons_self
        · rcases List.mem_append.mp he with he | he
          · exact (deltaPredictor bits).inRange_of_mem_residuals he
          · exact (firPredictor bits quantitization).inRange_of_mem_residuals he

/-- The case of a table that is neither empty nor the mark of a delta code, by the residuals it reads: the
samples of the warm-up, and those of the adaptive predictor. -/
theorem predictorDecompressFirAdapt_of_loads (hquant : 1 ≤ quantitization) {x : ℤ} {outputSize : ℕ}
    {coefTable rest warmup errors bufferOut : List ℤ} (hzero : ¬coefTable.length = 0)
    (hmax : ¬coefTable.length = 0x1f)
    (hfirst : loadRange (x :: rest) 1 coefTable.length = some warmup)
    (hsecond : loadRange (x :: rest) (coefTable.length + 1) (outputSize - (coefTable.length + 1))
      = some errors) :
    predictorDecompressFirAdapt (x :: rest) bufferOut outputSize bits coefTable quantitization
      = storeRange bufferOut 0 (x :: ((deltaPredictor bits).restore x warmup
          ++ (firPredictor bits quantitization).restore
              (x :: (deltaPredictor bits).restore x warmup, coefTable) errors)) := by
  unfold predictorDecompressFirAdapt
  simp only [if_neg hzero, if_neg hmax, deltaLoop_eq hpos hle, firLoop_eq hpos hle hquant]
  show (loadRange (x :: rest) 1 coefTable.length).bind (fun ds =>
    (loadRange (x :: rest) (coefTable.length + 1) (outputSize - (coefTable.length + 1))).bind fun es =>
      storeRange bufferOut 0 (x :: ((deltaPredictor bits).restore x ds
        ++ (firPredictor bits quantitization).restore (x :: (deltaPredictor bits).restore x ds,
          coefTable) es))) = _
  rw [hfirst, Option.bind_some, hsecond, Option.bind_some]

/-- Behind the warm-up the predictor adapts. -/
theorem predictorDecompressFirAdapt_adaptive (hquant : 1 ≤ quantitization) {x : ℤ}
    {coefTable xs behind bufferOut : List ℤ} (hzero : ¬coefTable.length = 0)
    (hmax : ¬coefTable.length = 0x1f) (hxs : ∀ y ∈ xs, y.bmod (2 ^ bits) = y)
    (hlong : coefTable.length ≤ xs.length) :
    predictorDecompressFirAdapt (firResiduals bits quantitization coefTable (x :: xs) ++ behind)
        bufferOut (xs.length + 1) bits coefTable quantitization = storeRange bufferOut 0 (x :: xs) := by
  have htake : (xs.take coefTable.length).length = coefTable.length := List.length_take_of_le hlong
  have hwarm := @Predictor.restore_residuals _ (deltaPredictor bits) (xs.take coefTable.length)
    (fun y hy => hxs y (List.mem_of_mem_take hy)) x
  have hrest := @Predictor.restore_residuals _ (firPredictor bits quantitization)
    (xs.drop coefTable.length) (fun y hy => hxs y (List.mem_of_mem_drop hy))
    (x :: xs.take coefTable.length, coefTable)
  have hdeltas := (deltaPredictor bits).length_residuals x (xs.take coefTable.length)
  have herrors := (firPredictor bits quantitization).length_residuals
    (x :: xs.take coefTable.length, coefTable) (xs.drop coefTable.length)
  rw [htake] at hdeltas
  rw [List.length_drop] at herrors
  unfold firResiduals
  simp only [if_neg hzero, if_neg hmax]
  generalize (deltaPredictor bits).residuals x (xs.take coefTable.length) = deltas at *
  generalize (firPredictor bits quantitization).residuals
    (x :: xs.take coefTable.length, coefTable) (xs.drop coefTable.length) = errors at *
  have hfirst : loadRange (x :: (deltas ++ errors ++ behind)) 1 coefTable.length = some deltas := by
    rw [List.append_assoc]
    exact loadRange_middle [x] deltas (errors ++ behind) rfl hdeltas.symm
  have hsecond : loadRange (x :: (deltas ++ errors ++ behind)) (coefTable.length + 1)
      (xs.length + 1 - (coefTable.length + 1)) = some errors := by
    rw [List.append_assoc]
    refine loadRange_middle (x :: deltas) errors behind ?_ ?_
    · rw [List.length_cons, hdeltas]
    · omega
  refine (predictorDecompressFirAdapt_of_loads hpos hle hquant hzero hmax hfirst hsecond).trans ?_
  rw [hwarm, hrest, List.take_append_drop]

/-- On a list shorter than the table the warm-up goes on behind it. -/
theorem predictorDecompressFirAdapt_warmup (hquant : 1 ≤ quantitization) {x : ℤ}
    {coefTable xs behind bufferOut : List ℤ} (hzero : ¬coefTable.length = 0)
    (hmax : ¬coefTable.length = 0x1f) (hxs : ∀ y ∈ xs, y.bmod (2 ^ bits) = y)
    (hshort : xs.length < coefTable.length) (hbehind : coefTable.length ≤ xs.length + behind.length) :
    ∃ more : List ℤ, more.length = coefTable.length - xs.length ∧
      predictorDecompressFirAdapt (firResiduals bits quantitization coefTable (x :: xs) ++ behind)
        bufferOut (xs.length + 1) bits coefTable quantitization
          = storeRange bufferOut 0 (x :: xs ++ more) := by
  have htake : xs.take coefTable.length = xs := List.take_of_length_le (by omega)
  have hdrop : xs.drop coefTable.length = [] := List.drop_eq_nil_of_le (by omega)
  have hwarm := Predictor.restore_residuals (deltaPredictor bits) hxs x
  have hdeltas := (deltaPredictor bits).length_residuals x xs
  unfold firResiduals
  simp only [if_neg hzero, if_neg hmax]
  rw [htake, hdrop]
  generalize (deltaPredictor bits).residuals x xs = deltas at *
  obtain ⟨junk, rest, rfl, hjunk⟩ : ∃ junk rest, behind = junk ++ rest ∧
      junk.length = coefTable.length - xs.length :=
    ⟨_, _, (List.take_append_drop (coefTable.length - xs.length) behind).symm,
      List.length_take_of_le (by omega)⟩
  have hfirst : loadRange (x :: (deltas ++ [] ++ (junk ++ rest))) 1 coefTable.length
      = some (deltas ++ junk) := by
    rw [List.append_nil, ← List.append_assoc]
    refine loadRange_middle [x] (deltas ++ junk) _ rfl ?_
    rw [List.length_append]
    omega
  have hsecond : loadRange (x :: (deltas ++ [] ++ (junk ++ rest))) (coefTable.length + 1)
      (xs.length + 1 - (coefTable.length + 1)) = some [] := by
    rw [show xs.length + 1 - (coefTable.length + 1) = 0 by omega, loadRange_of_le, List.take_zero]
    simp only [List.length_cons, List.length_append, List.length_nil]
    omega
  refine ⟨(deltaPredictor bits).restore ((deltaPredictor bits).after x deltas) junk, ?_, ?_⟩
  · rw [Predictor.length_restore, hjunk]
  refine (predictorDecompressFirAdapt_of_loads hpos hle hquant hzero hmax hfirst hsecond).trans ?_
  rw [Predictor.restore_append, hwarm]
  show storeRange bufferOut 0 (x :: (xs ++ _ ++ [])) = _
  rw [List.append_nil]
  rfl

/-- What the decoder writes: the samples, and for a list shorter than the table a few numbers more. -/
theorem predictorDecompressFirAdapt_eq {x : ℤ} {coefTable xs behind bufferOut : List ℤ}
    (hquant : 1 ≤ quantitization) (hxs : ∀ y ∈ xs, y.bmod (2 ^ bits) = y)
    (hroom : xs.length + 1 ≤ bufferOut.length) (hnum : coefTable.length < bufferOut.length)
    (hlen : xs.length + 1 + behind.length = bufferOut.length) :
    ∃ more, xs.length + 1 + more.length ≤ bufferOut.length ∧
      predictorDecompressFirAdapt (firResiduals bits quantitization coefTable (x :: xs) ++ behind)
        bufferOut (xs.length + 1) bits coefTable quantitization
          = storeRange bufferOut 0 (x :: xs ++ more) := by
  by_cases hzero : coefTable.length = 0
  · have hload : loadRange (x :: (xs ++ behind)) 1 xs.length = some xs :=
      loadRange_middle [x] xs behind rfl rfl
    refine ⟨[], hroom, ?_⟩
    unfold predictorDecompressFirAdapt firResiduals
    simp only [Nat.add_sub_cancel, if_pos hzero]
    show (loadRange (x :: (xs ++ behind)) 1 xs.length).bind
      (fun rest => storeRange bufferOut 0 (x :: rest)) = _
    rw [hload, Option.bind_some, List.append_nil]
  by_cases hmax : coefTable.length = 0x1f
  · have hload : loadRange (x :: ((deltaPredictor bits).residuals x xs ++ behind)) 1 xs.length
        = some ((deltaPredictor bits).residuals x xs) :=
      loadRange_middle [x] _ behind rfl (Predictor.length_residuals ..).symm
    refine ⟨[], hroom, ?_⟩
    unfold predictorDecompressFirAdapt firResiduals
    simp only [Nat.add_sub_cancel, if_neg hzero, if_pos hmax, deltaLoop_eq hpos hle]
    show (loadRange (x :: ((deltaPredictor bits).residuals x xs ++ behind)) 1 xs.length).bind
      (fun errors => storeRange bufferOut 0 (x :: (deltaPredictor bits).restore x errors)) = _
    rw [hload, Option.bind_some, Predictor.restore_residuals _ hxs, List.append_nil]
  by_cases hlong : coefTable.length ≤ xs.length
  · refine ⟨[], hroom, ?_⟩
    rw [List.append_nil]
    exact predictorDecompressFirAdapt_adaptive hpos hle hquant hzero hmax hxs hlong
  · have hbehind : coefTable.length ≤ xs.length + behind.length := by omega
    obtain ⟨more, hmore, heq⟩ := predictorDecompressFirAdapt_warmup hpos hle hquant hzero hmax hxs
      (Nat.lt_of_not_le hlong) hbehind
    exact ⟨more, by omega, heq⟩

/-- **The samples come back**: for every table of coefficients the decoder restores a channel from its
residuals, whatever else is in its buffers. -/
theorem predictorDecompressFirAdapt_residuals {coefTable xs behind bufferOut : List ℤ}
    (hquant : 1 ≤ quantitization) (hne : xs ≠ []) (hxs : ∀ x ∈ xs, x.bmod (2 ^ bits) = x)
    (hroom : xs.length ≤ bufferOut.length) (hnum : coefTable.length < bufferOut.length)
    (hlen : xs.length + behind.length = bufferOut.length) :
    ∃ out, predictorDecompressFirAdapt (firResiduals bits quantitization coefTable xs ++ behind) bufferOut
        xs.length bits coefTable quantitization = some out ∧
      out.length = bufferOut.length ∧ out.take xs.length = xs := by
  obtain ⟨x, xs, rfl⟩ := List.exists_cons_of_ne_nil hne
  obtain ⟨more, hmore, heq⟩ := predictorDecompressFirAdapt_eq hpos hle (x := x) hquant
    (fun y hy => hxs y (List.mem_cons_of_mem _ hy)) hroom hnum hlen
  obtain ⟨out, hstore, hout⟩ := @storeRange_zero bufferOut (x :: xs) more hmore
  exact ⟨out, heq.trans hstore, hout⟩

omit hpos hle in
/-- Every list of residuals is that of some samples. -/
theorem exists_firResiduals_eq {coefTable es : List ℤ} (hes : ∀ e ∈ es, e.bmod (2 ^ bits) = e) :
    ∃ xs, (∀ x ∈ xs, x.bmod (2 ^ bits) = x) ∧ firResiduals bits quantitization coefTable xs = es := by
  cases es with
  | nil => exact ⟨[], nofun, rfl⟩
  | cons e es =>
      have he := hes e List.mem_cons_self
      have hrange : ∀ d ∈ es, d.bmod (2 ^ bits) = d := fun d hd => hes d (List.mem_cons_of_mem _ hd)
      by_cases hzero : coefTable.length = 0
      · refine ⟨e :: es, hes, ?_⟩
        rw [firResiduals, if_pos hzero]
      by_cases hmax : coefTable.length = 0x1f
      · refine ⟨e :: (deltaPredictor bits).restore e es, ?_, ?_⟩
        · intro x hx
          rcases List.mem_cons.mp hx with rfl | hx
          · exact he
          · exact (deltaPredictor bits).inRange_of_mem_restore hx
        · rw [firResiduals, if_neg hzero, if_pos hmax, Predictor.residuals_restore _ hrange]
      · -- the warm-up, and what follows it
        have hwarm := @Predictor.residuals_restore _ (deltaPredictor bits)
          (es.take coefTable.length) (fun d hd => hrange d (List.mem_of_mem_take hd)) e
        have hlength := (deltaPredictor bits).length_restore e (es.take coefTable.length)
        generalize hw : (deltaPredictor bits).restore e (es.take coefTable.length) = warmup at *
        have hrest := @Predictor.residuals_restore _ (firPredictor bits quantitization)
          (es.drop coefTable.length) (fun d hd => hrange d (List.mem_of_mem_drop hd))
          (e :: warmup, coefTable)
        have hlength' := (firPredictor bits quantitization).length_restore (e :: warmup, coefTable)
          (es.drop coefTable.length)
        generalize hr : (firPredictor bits quantitization).restore (e :: warmup, coefTable)
          (es.drop coefTable.length) = rest at *
        rw [List.length_take] at hlength
        rw [List.length_drop] at hlength'
        have htake : (warmup ++ rest).take coefTable.length = warmup := by
          by_cases hlong : coefTable.length ≤ es.length
          · exact List.take_left' (by omega)
          · rw [List.length_eq_zero_iff.mp (show rest.length = 0 by omega), List.append_nil]
            exact List.take_of_length_le (by omega)
        have hdrop : (warmup ++ rest).drop coefTable.length = rest := by
          have hboth := List.take_append_drop coefTable.length (warmup ++ rest)
          rw [htake] at hboth
          exact List.append_cancel_left hboth
        refine ⟨e :: (warmup ++ rest), ?_, ?_⟩
        · intro x hx
          rcases List.mem_cons.mp hx with rfl | hx
          · exact he
          · rcases List.mem_append.mp hx with hx | hx
            · rw [← hw] at hx
              exact (deltaPredictor bits).inRange_of_mem_restore hx
            · rw [← hr] at hx
              exact (firPredictor bits quantitization).inRange_of_mem_restore hx
        · rw [firResiduals, if_neg hzero, if_neg hmax]
          dsimp only
          rw [htake, hdrop, hwarm, hrest, List.take_append_drop]

/-- **Residuals and samples determine each other**: the decoder writes the samples if and only if it is
given their residuals. -/
theorem predictorDecompressFirAdapt_iff {coefTable xs es behind bufferOut : List ℤ}
    (hquant : 1 ≤ quantitization) (hne : xs ≠ []) (hlength : es.length = xs.length)
    (hxs : ∀ x ∈ xs, x.bmod (2 ^ bits) = x) (hes : ∀ e ∈ es, e.bmod (2 ^ bits) = e)
    (hroom : xs.length ≤ bufferOut.length) (hnum : coefTable.length < bufferOut.length)
    (hlen : xs.length + behind.length = bufferOut.length) :
    ((predictorDecompressFirAdapt (es ++ behind) bufferOut xs.length bits coefTable quantitization).map
        (·.take xs.length) = some xs) ↔ es = firResiduals bits quantitization coefTable xs := by
  obtain ⟨ys, hys, rfl⟩ := @exists_firResiduals_eq bits quantitization coefTable es hes
  rw [length_firResiduals] at hlength
  have hne' : ys ≠ [] := by
    rintro rfl
    exact hne (List.length_eq_zero_iff.mp hlength.symm)
  obtain ⟨out, hdecode, -, htake⟩ := @predictorDecompressFirAdapt_residuals bits quantitization hpos hle
    coefTable ys behind bufferOut hquant hne' hys (hlength ▸ hroom) hnum (hlength ▸ hlen)
  rw [hlength] at hdecode htake
  rw [hdecode, Option.map_some, htake, Option.some.injEq]
  refine ⟨fun heq => heq ▸ rfl, fun heq => ?_⟩
  -- the samples of equal residuals are equal
  obtain ⟨out', hdecode', -, htake'⟩ := @predictorDecompressFirAdapt_residuals bits quantitization hpos hle
    coefTable xs behind bufferOut hquant hne hxs hroom hnum hlen
  rw [← heq, hdecode, Option.some.injEq] at hdecode'
  rw [← htake, hdecode', htake']

end Residuals

/-- Four samples, predicted with two coefficients. -/
theorem predictorDecompressFirAdapt_iff_four :
    ((predictorDecompressFirAdapt ([1000, 10, -5, 40008] ++ [9]) [7, 7, 7, 7, 7]
        ([1000, 1010, 1005, 41009] : List ℤ).length 17 [160, -40] 9).map (·.take 4)
      = some [1000, 1010, 1005, 41009]) ↔
      [1000, 10, -5, 40008] = firResiduals 17 9 [160, -40] [1000, 1010, 1005, 41009] :=
  @predictorDecompressFirAdapt_iff 17 9 (by decide) (by decide) [160, -40] [1000, 1010, 1005, 41009]
    [1000, 10, -5, 40008] [9] [7, 7, 7, 7, 7] (by decide) (by decide) (by decide) (by decide) (by decide)
    (by decide) (by decide) (by decide)

end Alac

end ConduitStream
