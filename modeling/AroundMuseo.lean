import AroundMuseo.Core.CachedFilter
import AroundMuseo.Core.DartString
import AroundMuseo.Core.RegExp
import AroundMuseo.Utils.Validators
import AroundMuseo.Core.Chunks
import AroundMuseo.Core.DartRange
import AroundMuseo.Core.While
import AroundMuseo.Utils.Formatter
import AroundMuseo.Utils.HelperFunctions
import AroundMuseo.Account.Validation
import AroundMuseo.Core.Navigator
import AroundMuseo.Core.Run
import AroundMuseo.Models.MuseumLogbookModel
import AroundMuseo.Models.UserModel
import AroundMuseo.Platform.World
import AroundMuseo.Platform.Calls
import AroundMuseo.Repositories.AuthenticationRepository
import AroundMuseo.Controllers.UserController
import AroundMuseo.Controllers.AuthControllers
import AroundMuseo.Controllers.QRCodeController
import AroundMuseo.Controllers.UpdateControllers
import AroundMuseo.Platform.Rules
import AroundMuseo.Core.View
import AroundMuseo.Account.Directory
import AroundMuseo.Account.Deletion
import AroundMuseo.Account.Prompts
import AroundMuseo.Platform.Frames
import AroundMuseo.Platform.Scenario
import AroundMuseo.Account.EmailChange
import AroundMuseo.Account.Faults
import AroundMuseo.Account.Consistency
import AroundMuseo.Account.GoogleSignIn
import AroundMuseo.Navigation.Loaders
import AroundMuseo.Navigation.Balance
import AroundMuseo.Museum.Access
import AroundMuseo.Screens.ArContentCameraScreen
import AroundMuseo.Screens.QRCodeScannerScreen
import AroundMuseo.Museum.Rescan
import AroundMuseo.Museum.Scanner
import AroundMuseo.Museum.LifeCycle
import AroundMuseo.Core.Pool
import AroundMuseo.Core.RelyGuarantee
import AroundMuseo.Controllers.OpeningHours
import AroundMuseo.Controllers.LocationController
import AroundMuseo.Locations.Fetches
import AroundMuseo.Locations.Catalogue
import AroundMuseo.Core.ListSet
import AroundMuseo.Favorites.StoredList
import AroundMuseo.Favorites.Convergence
import AroundMuseo.Favorites.Session
import AroundMuseo.Locations.OpenStatus
import AroundMuseo.Locations.NextTimes
import AroundMuseo.Locations.Details
import AroundMuseo.Locations.CategoryDetails
import AroundMuseo.Locations.FeaturedDetails
import AroundMuseo.Locations.Isolation
import AroundMuseo.Account.EmailMirror
import AroundMuseo.Account.Profile
import AroundMuseo.Account.ProfileMirror
import AroundMuseo.Controllers.VerifyEmailController
import AroundMuseo.Core.Named
import AroundMuseo.Core.Phases
import AroundMuseo.Core.Segments
import AroundMuseo.Platform.Overlapping
import AroundMuseo.Navigation.VerifyRedirect
import AroundMuseo.Navigation.Careful
import AroundMuseo.Core.Informed
import AroundMuseo.Navigation.AccessOperations
import AroundMuseo.Navigation.AccessControl
import AroundMuseo.Controllers.MapController
import AroundMuseo.Core.Beside
import AroundMuseo.Locations.Spots
import AroundMuseo.Locations.Updates
import AroundMuseo.Locations.LoadingFlag
import AroundMuseo.Locations.SelectedMarker
import AroundMuseo.Locations.Markers
import AroundMuseo.Locations.MapCoverage
import AroundMuseo.Account.Pictures
import AroundMuseo.Platform.Fleet
import AroundMuseo.Account.PictureUploads
import AroundMuseo.Favorites.FailedToggle
import AroundMuseo.Favorites.ShownFavorites
import AroundMuseo.Account.RecordRoundTrip
import AroundMuseo.Locations.RecordRoundTrip
import AroundMuseo.Controllers.LocationCategoryController
import AroundMuseo.Locations.Categories
import AroundMuseo.System.Spinners
import AroundMuseo.System.Uncaught
import AroundMuseo.System.OwnRecords
import AroundMuseo.Storage.RememberedLogin
import AroundMuseo.Storage.FirstTime
import AroundMuseo.Map.Subscriptions
import AroundMuseo.Museum.Logbook
import AroundMuseo.Locations.Lists
import AroundMuseo.Map.Routes
import AroundMuseo.Museum.ArExit
import AroundMuseo.Locations.ShownCategories
import AroundMuseo.Account.Roles
import AroundMuseo.System.Reports
import AroundMuseo.System.Independence
import AroundMuseo.Locations.HoursText
import AroundMuseo.System.Failures
