import Axionvera.Foundation.FormEncoding
import Axionvera.Foundation.Utf8

/-! Links that open a wallet (`utils/sep7.ts`), and what wallets read from them. -/

namespace Axionvera.Wallet.Sep7

open Axionvera.Foundation

/-- A text that counts as true in a condition. -/
def given (text : Option CodeUnits) : Option CodeUnits :=
  text.filter (· ≠ [])

/-- `params.toString()` of a `URLSearchParams` with these parameters, in which surrogates without
their partners are replaced.
-/
def searchParams (params : List (CodeUnits × CodeUnits)) : String :=
  String.ofList (writeForm (params.map fun param => (encodeText param.1, encodeText param.2)))

/-- `generateTransactionURI`. -/
def generateTransactionURI (signedXdr : CodeUnits) (callbackUrl : Option CodeUnits) : String :=
  let callback :=
    (given callbackUrl).map fun url => (codeUnits "callback", codeUnits "url:" ++ url)
  "web+stellar:tx?" ++ searchParams ((codeUnits "xdr", signedXdr) :: callback.toList)

/-- The texts with the capitals `XLM`. -/
def xlmSpellings : List String :=
  ["XLM", "XLm", "XlM", "Xlm", "xLM", "xLm", "xlM", "xlm"]

/-- `assetCode.toUpperCase() === "XLM"`. -/
def isXlm (assetCode : CodeUnits) : Bool :=
  assetCode ∈ xlmSpellings.map codeUnits

/-- What `generatePayURI` appends for an asset. -/
def assetSearchParams (assetCode assetIssuer : Option CodeUnits) : List (CodeUnits × CodeUnits) :=
  match (given assetCode).filter (!isXlm ·) with
  | none => []
  | some code =>
      (codeUnits "asset_code", code)
        :: ((given assetIssuer).map fun issuer => (codeUnits "asset_issuer", issuer)).toList

/-- `generatePayURI`. -/
def generatePayURI (destination amount : CodeUnits) (assetCode assetIssuer : Option CodeUnits)
    : String :=
  "web+stellar:pay?"
    ++ searchParams
      ((codeUnits "destination", destination)
        :: (codeUnits "amount", amount)
        :: assetSearchParams assetCode assetIssuer)

/-- Blanks and signs are escaped, and the asset of the network is left out. -/
example
    : generatePayURI (codeUnits "GA") (codeUnits "1 0") (some (codeUnits "xlm")) none
      = "web+stellar:pay?destination=GA&amount=1+0" := by
  decide +kernel

-----------------------------------------------------------------------------------------
-- Wallets
-----------------------------------------------------------------------------------------

/-- What an application makes a link for. -/
inductive WalletRequest where
  | transaction (signedXdr : String) (callbackUrl : Option String)
  | payment (destination amount : String) (assetCode assetIssuer : Option String)

/-- The link of a request. -/
def WalletRequest.uri : WalletRequest → String
  | .transaction signedXdr callbackUrl =>
      generateTransactionURI (codeUnits signedXdr) (callbackUrl.map codeUnits)
  | .payment destination amount assetCode assetIssuer =>
      generatePayURI (codeUnits destination) (codeUnits amount) (assetCode.map codeUnits)
        (assetIssuer.map codeUnits)

/-- What a wallet is to do: sign a transaction, and possibly post it, or pay an amount, in the asset
of the network or in one with a code, and possibly an issuer.
-/
inductive WalletTask where
  | transaction (xdr : String) (callback : Option String)
  | payment (destination amount : String) (asset : Option (String × Option String))
  deriving DecidableEq

/-- What a request asks of a wallet. -/
def WalletRequest.task : WalletRequest → WalletTask
  | .transaction signedXdr callbackUrl => .transaction signedXdr (callbackUrl.filter (· ≠ ""))
  | .payment destination amount assetCode assetIssuer =>
      .payment destination amount
        ((assetCode.filter fun code => code ≠ "" && code ∉ xlmSpellings).map fun code =>
          (code, assetIssuer.filter (· ≠ "")))

/-- A text behind another one. -/
def behind (start text : String) : Option String :=
  if start.toList.isPrefixOf text.toList then some (String.ofList (text.toList.drop start.length))
  else none

/-- The texts of a parameter. -/
def textsOf (param : List UInt8 × List UInt8) : Option (String × String) := do
  return (← textOfUtf8 param.1, ← textOfUtf8 param.2)

/-- What a link says: its operation, and its parameters if all of them are texts. -/
def readLink (decode : List Char → List UInt8) (uri : String)
    : Option (String × List (String × String)) := do
  let link ← behind "web+stellar:" uri
  let params ← (readForm decode (link.toList.dropWhile (· ≠ '?')).tail).mapM textsOf
  return (String.ofList (link.toList.takeWhile (· ≠ '?')), params)

/-- What a wallet does for a link, with a function that reads what is escaped. -/
def readTask (decode : List Char → List UInt8) (uri : String) : Option WalletTask := do
  let (operation, params) ← readLink decode uri
  if operation = "tx" then
    return .transaction (← params.lookup "xdr") ((params.lookup "callback").bind (behind "url:"))
  else if operation = "pay" then
    return .payment (← params.lookup "destination") (← params.lookup "amount")
      ((params.lookup "asset_code").map fun code => (code, params.lookup "asset_issuer"))
  else none

-----------------------------------------------------------------------------------------
-- The link of a task
-----------------------------------------------------------------------------------------

/-- The name of an operation. -/
def WalletTask.operation : WalletTask → String
  | .transaction _ _ => "tx"
  | .payment _ _ _ => "pay"

/-- The parameters of an asset. -/
def assetParams : Option (String × Option String) → List (String × String)
  | none => []
  | some (code, issuer) =>
      ("asset_code", code) :: (issuer.map fun issuer => ("asset_issuer", issuer)).toList

/-- The parameters of a task. -/
def WalletTask.params : WalletTask → List (String × String)
  | .transaction xdr callback =>
      ("xdr", xdr) :: (callback.map fun url => ("callback", "url:" ++ url)).toList
  | .payment destination amount asset =>
      ("destination", destination) :: ("amount", amount) :: assetParams asset

/-- The link of an operation with parameters. -/
def link (operation : String) (params : List (String × String)) : String :=
  "web+stellar:" ++ operation ++ "?"
    ++ String.ofList (writeForm (params.map fun param => (utf8 param.1, utf8 param.2)))

/-- The units of a text tell the text. -/
theorem codeUnits_injective : Function.Injective codeUnits := by
  intro first second same
  have points := congrArg codePoints same
  rw [codePoints_codeUnits, codePoints_codeUnits] at points
  exact String.ext (List.map_injective_iff.mpr (fun _ _ => Char.toNat_inj.mp) points)

/-- Only the empty text has no units. -/
theorem codeUnits_ne_nil_iff {text : String} : codeUnits text ≠ [] ↔ text ≠ "" :=
  codeUnits_injective.ne_iff' rfl

/-- The units of joined texts are joined. -/
theorem codeUnits_append (first second : String)
    : codeUnits (first ++ second) = codeUnits first ++ codeUnits second := by
  rw [codeUnits, String.toList_append, List.flatMap_append, codeUnits, codeUnits]

/-- What is given counts as true. -/
theorem given_map_codeUnits (text : Option String)
    : given (text.map codeUnits) = (text.filter (· ≠ "")).map codeUnits := by
  cases text with
  | none => rfl
  | some text =>
      simp only [given, Option.map_some, Option.filter_some, decide_eq_true_eq,
        codeUnits_ne_nil_iff]
      split_ifs <;> rfl

/-- An asset is that of the network if its code is spelled as such. -/
theorem isXlm_codeUnits (code : String)
    : isXlm (codeUnits code) = decide (code ∈ xlmSpellings) := by
  rw [isXlm, decide_eq_decide]
  exact List.mem_map_of_injective codeUnits_injective

/-- Parameters that are texts are written as such. -/
theorem searchParams_map_codeUnits (params : List (String × String))
    : searchParams (params.map fun param => (codeUnits param.1, codeUnits param.2))
      = String.ofList (writeForm (params.map fun param => (utf8 param.1, utf8 param.2))) := by
  rw [searchParams, List.map_map]
  refine congrArg (String.ofList ∘ writeForm) (List.map_congr_left fun param _ => ?_)
  rw [← encodeText_codeUnits, ← encodeText_codeUnits]
  rfl

/-- The parameters of an asset are texts. -/
theorem assetSearchParams_map_codeUnits (assetCode assetIssuer : Option String)
    : assetSearchParams (assetCode.map codeUnits) (assetIssuer.map codeUnits)
      = (assetParams
          ((assetCode.filter fun code => code ≠ "" && code ∉ xlmSpellings).map fun code =>
            (code, assetIssuer.filter (· ≠ "")))).map
          fun param => (codeUnits param.1, codeUnits param.2) := by
  rw [assetSearchParams, given_map_codeUnits, given_map_codeUnits, Option.filter_map]
  have isOther : ((!isXlm ·) ∘ codeUnits) = fun code => decide (code ∉ xlmSpellings) :=
    funext fun code => by rw [Function.comp_apply, isXlm_codeUnits, decide_not]
  rw [isOther, Option.filter_filter]
  cases assetCode.filter fun code => code ≠ "" && code ∉ xlmSpellings with
  | none => rfl
  | some code => cases assetIssuer.filter (· ≠ "") <;> rfl

/-- The link of a request is that of its task. -/
theorem uri_eq_link (request : WalletRequest)
    : request.uri = link request.task.operation request.task.params := by
  cases request with
  | transaction signedXdr callbackUrl =>
      rw [WalletRequest.uri, WalletRequest.task, WalletTask.operation]
      unfold generateTransactionURI link
      rw [given_map_codeUnits, ← searchParams_map_codeUnits]
      cases callbackUrl.filter (· ≠ "") with
      | none => rfl
      | some url => simp [WalletTask.params, codeUnits_append]
  | payment destination amount assetCode assetIssuer =>
      rw [WalletRequest.uri, WalletRequest.task, WalletTask.operation]
      unfold generatePayURI link
      rw [assetSearchParams_map_codeUnits, ← searchParams_map_codeUnits]
      rfl

-----------------------------------------------------------------------------------------
-- What wallets read
-----------------------------------------------------------------------------------------

/-- A task with all its texts changed. -/
def WalletTask.map (change : String → String) : WalletTask → WalletTask
  | .transaction xdr callback => .transaction (change xdr) (callback.map change)
  | .payment destination amount asset =>
      .payment (change destination) (change amount)
        (asset.map fun asset => (change asset.1, asset.2.map change))

/-- (ReadsAs decode change) requires what is read of a written text to be a changed one. What links
consist of is not changed.
-/
structure ReadsAs (decode : List Char → List UInt8) (change : String → String) : Prop where
  read : ∀ text, decode (encodeForm (utf8 text)) = utf8 (change text)
  name
    : ∀ name ∈ ["xdr", "callback", "destination", "amount", "asset_code", "asset_issuer"],
        change name = name
  url : ∀ text, change ("url:" ++ text) = "url:" ++ change text

variable {decode : List Char → List UInt8} {change : String → String}

/-- What is behind a text is found there. -/
theorem behind_append (start text : String) : behind start (start ++ text) = some text := by
  have isStart : start.toList.isPrefixOf (start ++ text).toList = true := by
    rw [String.toList_append]
    exact List.isPrefixOf_iff_prefix.mpr (List.prefix_append _ _)
  rw [behind, if_pos isStart, String.toList_append, ← String.length_toList, List.drop_left,
    String.ofList_toList]

/-- Parameters are read with their texts changed. -/
theorem mapM_textsOf (reads : ReadsAs decode change) (params : List (String × String))
    : (readForm decode (writeForm (params.map fun param => (utf8 param.1, utf8 param.2)))).mapM
        textsOf
      = some (params.map fun param => (change param.1, change param.2)) := by
  rw [readForm_writeForm, List.map_map, List.mapM_map]
  refine (congrArg (params.mapM ·) (funext fun param => ?_)).trans (List.mapM_pure (m := Option))
  change textsOf (decode (encodeForm (utf8 param.1)), decode (encodeForm (utf8 param.2))) = _
  rw [reads.read, reads.read, textsOf, textOfUtf8_utf8, textOfUtf8_utf8]
  rfl

/-- A link is read with its parameters changed. -/
theorem readLink_link (reads : ReadsAs decode change) {operation : String}
    (noMark : '?' ∉ operation.toList) (params : List (String × String))
    : readLink decode (link operation params)
      = some (operation, params.map fun param => (change param.1, change param.2)) := by
  have characters (query : List Char)
      : (operation ++ ("?" ++ String.ofList query)).toList = operation.toList ++ '?' :: query := by
    simp
  have others : ∀ character ∈ operation.toList, decide (character ≠ '?') = true :=
    fun character member => decide_eq_true fun isMark => noMark (isMark ▸ member)
  unfold link
  rw [readLink, String.append_assoc, String.append_assoc, behind_append, Option.bind_eq_bind,
    Option.bind_some, characters, List.dropWhile_append_of_pos others,
    List.dropWhile_cons_of_neg (by decide), List.tail_cons, List.takeWhile_append_of_pos others,
    List.takeWhile_cons_of_neg (by decide), List.append_nil, String.ofList_toList,
    mapM_textsOf reads]
  rfl

/-- A wallet that reads changed texts does the task with its texts changed. -/
theorem readTask_uri (reads : ReadsAs decode change) (request : WalletRequest)
    : readTask decode request.uri = some (request.task.map change) := by
  have noMark : '?' ∉ request.task.operation.toList := by
    cases request.task
    · exact show '?' ∉ "tx".toList by decide
    · exact show '?' ∉ "pay".toList by decide
  have ofXdr := reads.name "xdr" (by decide)
  have ofCallback := reads.name "callback" (by decide)
  have ofDestination := reads.name "destination" (by decide)
  have ofAmount := reads.name "amount" (by decide)
  have ofCode := reads.name "asset_code" (by decide)
  have ofIssuer := reads.name "asset_issuer" (by decide)
  rw [readTask, uri_eq_link, readLink_link reads noMark]
  cases request.task with
  | transaction xdr callback =>
      cases callback with
      | none =>
          simp [WalletTask.operation, WalletTask.params, WalletTask.map, List.lookup_cons, ofXdr]
      | some url =>
          simp [WalletTask.operation, WalletTask.params, WalletTask.map, List.lookup_cons, ofXdr,
            ofCallback, reads.url, behind_append]
  | payment destination amount asset =>
      rcases asset with _ | ⟨code, _ | issuer⟩ <;>
        simp [WalletTask.operation, WalletTask.params, WalletTask.map, assetParams,
          List.lookup_cons, ofDestination, ofAmount, ofCode, ofIssuer]

/-- The texts of a task. -/
def WalletTask.texts : WalletTask → List String
  | .transaction xdr callback => xdr :: callback.toList
  | .payment destination amount asset =>
      destination :: amount :: asset.toList.flatMap fun asset => asset.1 :: asset.2.toList

/-- A task is left alone exactly if its texts are. -/
theorem map_task_eq_self_iff (task : WalletTask)
    : task.map change = task ↔ ∀ text ∈ task.texts, change text = text := by
  cases task with
  | transaction xdr callback => cases callback <;> simp [WalletTask.map, WalletTask.texts]
  | payment destination amount asset =>
      rcases asset with _ | ⟨code, _ | issuer⟩ <;> simp [WalletTask.map, WalletTask.texts]

/-- A text with a `+` for each blank. -/
def plusForBlank (text : String) : String :=
  String.ofList (text.toList.map fun character => if character = ' ' then '+' else character)

/-- A text without blanks is left alone. -/
theorem plusForBlank_eq_self_iff (text : String)
    : plusForBlank text = text ↔ ' ' ∉ text.toList := by
  rw [plusForBlank, ← String.toList_inj, String.toList_ofList, map_eq_self_iff]
  constructor
  · intro same isBlank
    exact absurd (same ' ' isBlank) (by decide)
  · intro noBlank character member
    exact if_neg fun isBlank : character = ' ' => noBlank (isBlank ▸ member)

/-- Only a blank has the byte of a blank. -/
theorem withPluses_utf8EncodeChar (character : Char)
    : withPluses (String.utf8EncodeChar character)
      = String.utf8EncodeChar (if character = ' ' then '+' else character) := by
  by_cases isBlank : character = ' '
  · rw [if_pos isBlank, isBlank]
    rfl
  · rw [if_neg isBlank, withPluses_eq_self_iff]
    intro hasBlank
    have isPoint := toNat_eq_of_mem_utf8EncodeChar hasBlank (by decide)
    exact isBlank (Char.toNat_inj.mp isPoint)

/-- The blanks of a text are the blanks of its bytes, by induction on the characters. -/
theorem withPluses_utf8 (text : String) : withPluses (utf8 text) = utf8 (plusForBlank text) := by
  rw [utf8, utf8, plusForBlank, String.toList_ofList]
  induction text.toList with
  | nil => rfl
  | cons character rest ih =>
      rw [withPluses] at ih ⊢
      rw [List.flatMap_cons, List.map_append, ih, List.map_cons, List.flatMap_cons,
        ← withPluses_utf8EncodeChar]
      rfl

/-- A reader for which a `+` is a blank reads all texts. -/
theorem readsAs_formDecode : ReadsAs formDecode id where
  read text := formDecode_encodeForm (utf8 text)
  name _ _ := rfl
  url _ := rfl

/-- A reader for which a `+` is itself reads one for each blank. -/
theorem readsAs_percentDecode : ReadsAs percentDecode plusForBlank where
  read text := (percentDecode_encodeForm (utf8 text)).trans (withPluses_utf8 text)
  name := by decide
  url text := by
    rw [plusForBlank, String.toList_append, List.map_append, String.ofList_append]
    rfl

/-- A character of a link. -/
def isLinkCharacter (character : Char) : Bool :=
  isFormCharacter character || character ∈ [':', '?', '&', '=']

/-- A link has letters, figures and a few signs only. -/
theorem isLinkCharacter_of_mem {task : WalletTask} {character : Char}
    (member : character ∈ (link task.operation task.params).toList)
    : isLinkCharacter character = true := by
  have ofText (text : String) (plain : text.toList.all isLinkCharacter = true)
      (inText : character ∈ text.toList) : isLinkCharacter character = true :=
    List.all_eq_true.mp plain character inText
  simp only [link, String.toList_append, String.toList_ofList, List.mem_append] at member
  rcases member with ((inScheme | inOperation) | isMark) | inQuery
  · exact ofText _ (by decide +kernel) inScheme
  · cases task with
    | transaction xdr callback => exact ofText "tx" (by decide +kernel) inOperation
    | payment destination amount asset => exact ofText "pay" (by decide +kernel) inOperation
  · exact ofText _ (by decide +kernel) isMark
  · rw [isLinkCharacter, Bool.or_eq_true]
    obtain isPlain | rfl | rfl := mem_writeForm inQuery
    · exact .inl isPlain
    · exact .inr rfl
    · exact .inr rfl

/-- A wallet that reads a link as a form does exactly what the application made it for: links are
the same exactly if they ask the same of a wallet. A wallet that does not read a `+` as a blank does
so exactly if no text of the task has a blank. And a link has letters, figures and a few signs only.
-/
theorem wallet_links_are_read_back (request other : WalletRequest)
    : readTask formDecode request.uri = some request.task
      ∧ (request.uri = other.uri ↔ request.task = other.task)
      ∧ (readTask percentDecode request.uri = some request.task
        ↔ ∀ text ∈ request.task.texts, ' ' ∉ text.toList)
      ∧ ∀ character ∈ request.uri.toList, isLinkCharacter character = true := by
  have reads (request : WalletRequest) : readTask formDecode request.uri = some request.task := by
    rw [readTask_uri readsAs_formDecode]
    exact congrArg some ((map_task_eq_self_iff _).mpr fun _ _ => rfl)
  refine ⟨reads request, ⟨fun same => ?_, fun same => ?_⟩, ?_, ?_⟩
  · have readBack := congrArg (readTask formDecode) same
    rw [reads, reads] at readBack
    exact Option.some.inj readBack
  · rw [uri_eq_link, uri_eq_link, same]
  · rw [readTask_uri readsAs_percentDecode, Option.some_inj, map_task_eq_self_iff]
    exact forall₂_congr fun text _ => plusForBlank_eq_self_iff text
  · intro character member
    rw [uri_eq_link] at member
    exact isLinkCharacter_of_mem member

end Axionvera.Wallet.Sep7
