import HotReload.Main
import HotReload.Proofs.AccessorSearch
import HotReload.Proofs.CommandFiles
import HotReload.Proofs.DeferredName
import HotReload.Proofs.DigitLoop
import HotReload.Proofs.HashEdits
import HotReload.Proofs.JoinedLines
import HotReload.Proofs.MetadataFaults
import HotReload.Proofs.OverrideNames
import HotReload.Proofs.Reexport
import HotReload.Proofs.SavedConfig
import HotReload.Proofs.ShownOptions
import HotReload.Proofs.SignedHash
import HotReload.Proofs.StyleChange
import HotReload.Proofs.StyleFields
import HotReload.Proofs.StylesheetPlace
import HotReload.Proofs.WordRemoval
import HotReload.Run
