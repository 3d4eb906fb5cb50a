/-!
Why an image cannot be had.
-/

namespace ReportPress

inductive AssetFault where
  | emptySource
  | noLogo
  | remoteDisabled (source : String)
  | noFetcher (source : String)
  | timedOut (path : String)
  | notFetched (path cause : String)
  | emptyAsset (path : String)
  | malformedUri
  | notBase64
  | badBase64
  | unreadable
  /-- an image that is turned away where it is put on a page -/
  | notEmbedded (cause : String)
  /-- a path that leads out of the directory of assets -/
  | escapes (root path : String)
  /-- a fetcher's own refusal -/
  | refused (text : String)
deriving DecidableEq, Repr

/-- a fault in words; a refusal without words is shown by the name of its kind -/
def AssetFault.message : AssetFault → String
  | .emptySource => "image source is empty"
  | .noLogo => "logo asset is not configured"
  | .remoteDisabled source => "remote assets are disabled: " ++ source
  | .noFetcher source => "no asset fetcher configured for " ++ source
  | .timedOut path => "timed out fetching " ++ path
  | .notFetched path cause => "could not fetch " ++ path ++ ": " ++ cause
  | .emptyAsset path => "empty asset: " ++ path
  | .malformedUri => "malformed data URI"
  | .notBase64 => "only base64 data URIs are supported"
  | .badBase64 => "data URI payload is not valid base64"
  | .unreadable => "unreadable image data"
  | .notEmbedded cause => "image could not be embedded: " ++ cause
  | .escapes root path => "asset path escapes " ++ root ++ ": " ++ path
  | .refused text => text

end ReportPress
