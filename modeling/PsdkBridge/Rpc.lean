import PsdkBridge.DroneTypes
import PsdkBridge.Platform

/-!
# Requests and responses

This module follows `core/proto/rpc.c`: parsing of one request line, the
accessors for parameters, and the rendering of the two kinds of response into
a buffer of the caller.
-/

namespace PsdkBridge

/-- `RpcRequest`.  A NULL `params` is `Json.null`. -/
structure RpcRequest where
  id : Int32
  method : Bytes
  params : Json
  root : Json

/-- Size of the field `method`. -/
def rpcMethodLen : Nat := 64

/-- `rpc_parse`; `none` is the return value `-1`. -/
def rpcParse (P : Platform) (line : Bytes) : Option RpcRequest :=
  match P.tokenerParseEx (cstr line) with
  | none => none
  | some (root, _) =>
      if jsonObjectIsObject root then
        let id :=
          match jsonObjectObjectGetEx root (ascii "id") with
          | some jid => jsonObjectGetInt P jid
          | none => -1
        match jsonObjectObjectGetEx root (ascii "method") with
        | none => none
        | some jmethod =>
            let text := (jsonObjectGetString P jmethod).getD P.nullText
            some {
              id := id
              method := (snprintf rpcMethodLen (cstr text)).stored
              params := (jsonObjectObjectGetEx root (ascii "params")).getD .null
              root := root }
      else none

/-- The rendering of a success response. -/
def resultText (id : Int32) (resultJson : Option Bytes) : Bytes :=
  let resultJson :=
    match resultJson with
    | none => ascii "\x7b\x7d"
    | some [] => ascii "\x7b\x7d"
    | some (b :: text) => b :: text
  ascii "\x7b\"id\":" ++ decInt id.toInt ++ ascii ",\"result\":" ++
    resultJson ++ ascii "\x7d"

/-- The rendering of an error response. -/
def errorText (id : Int32) (message : Bytes) : Bytes :=
  ascii "\x7b\"id\":" ++ decInt id.toInt ++ ascii ",\"error\":\"" ++
    message ++ ascii "\"\x7d"

/-- `rpc_build_result`; a NULL `result_json` is `none`. -/
def rpcBuildResult (bufSz : Nat) (id : Int32) (resultJson : Option Bytes) :
    Printed :=
  snprintf bufSz (resultText id resultJson)

/-- `rpc_build_error`. -/
def rpcBuildError (bufSz : Nat) (id : Int32) (message : Bytes) : Printed :=
  snprintf bufSz (errorText id message)

/-! The accessors return the default for a NULL `params`; here this is a case
of `json_object_object_get_ex`, which finds no member in a NULL object. -/

/-- `rpc_param_int`. -/
def rpcParamInt (P : Platform) (params : Json) (key : Bytes) (dflt : Int32) :
    Int32 :=
  match jsonObjectObjectGetEx params key with
  | none => dflt
  | some v => jsonObjectGetInt P v

/-- `rpc_param_double`. -/
def rpcParamDouble (P : Platform) (params : Json) (key : Bytes) (dflt : FNum) :
    FNum :=
  match jsonObjectObjectGetEx params key with
  | none => dflt
  | some v => jsonObjectGetDouble P v

/-- `rpc_param_str`, as the C string the caller sees. -/
def rpcParamStr (P : Platform) (params : Json) (key : Bytes) : Option Bytes :=
  match jsonObjectObjectGetEx params key with
  | none => none
  | some v => (jsonObjectGetString P v).map cstr

end PsdkBridge
