import MidenBase.Objects.Basic
import MidenBase.Utils.Serde
import MidenBase.Utils.Collections
import MidenBase.Objects.Notes.Assets
import MidenBase.Mock.Serde
import MidenBase.Objects.Notes.AssetsCommitment
import MidenBase.Objects.Notes.AssetsSerde
import MidenBase.Objects.Transaction.TransactionId
import MidenBase.Objects.Transaction.ProvenTx
import MidenBase.Objects.Transaction.ProvenTxEncoding
import MidenBase.Mock.Objects
import MidenBase.Objects.Transaction.ProvenTxBuild
import MidenBase.Objects.Transaction.ProvenTxBuildRuns
import MidenBase.Objects.Transaction.ProvenTxDecode
import MidenBase.MidenLib.Notes
