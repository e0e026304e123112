import WikiNext.Core.PolicyLaws
import WikiNext.Foundation.Pairs
import WikiNext.App.PasswordCost
import WikiNext.App.DatabaseUrl
import WikiNext.Foundation.Effect
import WikiNext.Store.StorageAcceptance
import WikiNext.App.ConfigLoaders
import WikiNext.App.RuntimeAgreement
import WikiNext.Server.DiagnosticCaches
import WikiNext.Server.Shutdown
import WikiNext.App.DataDirectory
import WikiNext.App.SearchUrl
import WikiNext.Store.StorageFrame
import WikiNext.Search.BoundedReading
import WikiNext.App.ConfigSize
import WikiNext.App.PasswordRehash
import WikiNext.Server.HttpHardening
import WikiNext.Server.Cli
import WikiNext.Server.ReportTexts
import WikiNext.Server.SecretsInside
import WikiNext.Store.StorageRecovery
import WikiNext.Store.StorageSessions
import WikiNext.Foundation.Joining
import WikiNext.App.RuntimeSteps
import WikiNext.Server.DeploymentMigrated
