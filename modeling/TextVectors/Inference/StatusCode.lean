namespace TextVectors.Inference

/-! Codes that the native library puts into a failed call's status. -/

inductive StatusCode where
  | ok
  | fail
  | invalidArgument
  | noSuchFile
  | noModel
  | engineError
  | runtimeException
  | invalidProtobuf
  | modelLoaded
  | notImplemented
  | invalidGraph
  | epFail
  | modelLoadCanceled
  | modelRequiresCompilation
  | unknown (code : Int)
deriving Repr, DecidableEq

namespace StatusCode

def ofInt (code : Int) : StatusCode :=
  if code = 0 then .ok
  else if code = 1 then .fail
  else if code = 2 then .invalidArgument
  else if code = 3 then .noSuchFile
  else if code = 4 then .noModel
  else if code = 5 then .engineError
  else if code = 6 then .runtimeException
  else if code = 7 then .invalidProtobuf
  else if code = 8 then .modelLoaded
  else if code = 9 then .notImplemented
  else if code = 10 then .invalidGraph
  else if code = 11 then .epFail
  else if code = 12 then .modelLoadCanceled
  else if code = 13 then .modelRequiresCompilation
  else .unknown code

def name : StatusCode → String
  | .ok => "Ok"
  | .fail => "Fail"
  | .invalidArgument => "InvalidArgument"
  | .noSuchFile => "NoSuchFile"
  | .noModel => "NoModel"
  | .engineError => "EngineError"
  | .runtimeException => "RuntimeException"
  | .invalidProtobuf => "InvalidProtobuf"
  | .modelLoaded => "ModelLoaded"
  | .notImplemented => "NotImplemented"
  | .invalidGraph => "InvalidGraph"
  | .epFail => "EpFail"
  | .modelLoadCanceled => "ModelLoadCanceled"
  | .modelRequiresCompilation => "ModelRequiresCompilation"
  | .unknown code => s!"Unknown({code})"

end StatusCode

end TextVectors.Inference
