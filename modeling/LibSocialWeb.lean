import LibSocialWeb.ItemView.Mirror
import LibSocialWeb.ItemView.ChangedAfterAdded
import LibSocialWeb.ItemView.Residue
import LibSocialWeb.ItemView.WakeUp
import LibSocialWeb.ItemView.QuietRestart
import LibSocialWeb.ItemView.Difference
import LibSocialWeb.ContactView.Simulation
import LibSocialWeb.ItemStream.Announced
import LibSocialWeb.Core.CacheRoundTrip
import LibSocialWeb.Flickr.UserChange
import LibSocialWeb.Service.Banished
import LibSocialWeb.Flickr.Capabilities
import LibSocialWeb.Flickr.LoadContract
import LibSocialWeb.Flickr.LoadAnswered
import LibSocialWeb.Flickr.ViewLifetime
import LibSocialWeb.Flickr.ViewRequests
import LibSocialWeb.Flickr.UploadProgress
import LibSocialWeb.Vimeo.Albums
import LibSocialWeb.Client.Upload
import LibSocialWeb.Core.SwBanned
import LibSocialWeb.Core.ImageFetch
import LibSocialWeb.Core.ClientMonitor
import LibSocialWeb.Core.ContactEquality
import LibSocialWeb.Core.ItemEquality
import LibSocialWeb.Twitter.Service
import LibSocialWeb.Twitter.Credentials
import LibSocialWeb.Twitter.Capabilities
import LibSocialWeb.Lastfm.Service
import LibSocialWeb.Facebook.Service
import LibSocialWeb.Photobucket.Service
import LibSocialWeb.Service.Announced
import LibSocialWeb.Smugmug.Collections
import LibSocialWeb.Facebook.Collections
import LibSocialWeb.Photobucket.Collections
import LibSocialWeb.Service.Answered
import LibSocialWeb.Core.SwSetAlgebra
import LibSocialWeb.Client.ProgressBytes
import LibSocialWeb.Flickr.Uploads
import LibSocialWeb.Twitter.Framing
import LibSocialWeb.Lib.Memory
import LibSocialWeb.Core.Unescape
import LibSocialWeb.Core.UnescapeText
import LibSocialWeb.Core.UnescapeUntouched
import LibSocialWeb.Lastfm.ItemView
import LibSocialWeb.Lib.Interleaving
import LibSocialWeb.Vimeo.Stages
import LibSocialWeb.Vimeo.Chain
import LibSocialWeb.Lib.Batches
import LibSocialWeb.Twitter.Lookups
import LibSocialWeb.Lib.Base64
import LibSocialWeb.Keyfob.OAuth
import LibSocialWeb.Keystore.KeyData
import LibSocialWeb.Keystore.LoadKeys
import LibSocialWeb.Core.DateOrder
import LibSocialWeb.Lib.Cuts
import LibSocialWeb.Core.CacheNames
import LibSocialWeb.Flickr.Polling
import LibSocialWeb.Smugmug.Proxies
import LibSocialWeb.Service.CollectionIds
import LibSocialWeb.Facebook.Upload
import LibSocialWeb.Photobucket.Upload
import LibSocialWeb.Vimeo.Collections
import LibSocialWeb.Service.CheckedIds
import LibSocialWeb.Flickr.Responses
import LibSocialWeb.Lib.Numerals
import LibSocialWeb.Plurk.Permalinks
import LibSocialWeb.Photobucket.Nesting
import LibSocialWeb.Lib.Separators
import LibSocialWeb.Smugmug.AlbumIds
import LibSocialWeb.Youtube.ClientLogin
import LibSocialWeb.Twitter.Accounting
import LibSocialWeb.Lib.Bookkeeping
import LibSocialWeb.ItemView.ChangedReferences
import LibSocialWeb.ItemView.Coherence
import LibSocialWeb.Core.CacheStore
import LibSocialWeb.Client.ItemObjects
import LibSocialWeb.Core.Online
import LibSocialWeb.Service.Login
import LibSocialWeb.Plurk.Service
import LibSocialWeb.Youtube.Service
import LibSocialWeb.Lib.Method
import LibSocialWeb.Service.Verified
import LibSocialWeb.Sina.Service
import LibSocialWeb.Myspace.Service
import LibSocialWeb.Service.StatusUpdate
import LibSocialWeb.Service.Logins
import LibSocialWeb.Twitter.Delivery
import LibSocialWeb.Lib.Gather
import LibSocialWeb.Twitter.Contacts
import LibSocialWeb.Vimeo.Service
import LibSocialWeb.Service.Entries
import LibSocialWeb.Twitter.ItemView
import LibSocialWeb.Plurk.ItemView
import LibSocialWeb.Myspace.ItemView
import LibSocialWeb.Sina.ItemView
import LibSocialWeb.Vimeo.ItemView
import LibSocialWeb.Service.ItemReplies
import LibSocialWeb.Lib.Memo
import LibSocialWeb.Youtube.ItemView
import LibSocialWeb.Service.Announcements
import LibSocialWeb.Lib.Wrapping
